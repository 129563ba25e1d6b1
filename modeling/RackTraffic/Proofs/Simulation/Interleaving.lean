import Mathlib.Data.List.Induction
import RackTraffic.Proofs.Simulation.Batch
import RackTraffic.Proofs.Simulation.Published

/-!
# The order of work does not matter

**Theorem (`runAll_interleaving`).** Let the simulator be confined to the files of each job, and let
no directory be in the place of a result or of an output. If the steps of the pairs of a batch are
taken in any order, then at any time each result is as it is due, and in the end the outcomes and
the disk are those of the batch that runs the pairs one after the other.

The invariant (`Overlay`) compares the work with what each pair would do on its own, on the disk on
which the work starts. The progress of a pair is that of the pair on its own after as many steps as
it has taken (`Job.solo`), its files are what they are then, and everything else is as it was at the
start. A step keeps this up because it is local to its pair: it goes as it would go if the pair were
alone, and the other pairs do not see it.
-/

namespace RackTraffic

variable {simulator : Simulator} {logs results : Path} {b d : Disk} {job : Job} {place : Place}

/-! ## A pair on its own -/

/-- The progress of a job and the disk after some steps of this job alone. -/
def Job.solo (simulator : Simulator) (results : Path) (b : Disk) (job : Job) :
    (steps : Nat) → Progress × Disk
  | 0 => (.waiting, b)
  | steps + 1 =>
    job.advance simulator results (job.solo simulator results b steps).2
      (job.solo simulator results b steps).1

theorem stepsLeft_solo (n : Nat) : (job.solo simulator results b n).1.stepsLeft ≤ 3 - n := by
  induction n with
  | zero => exact le_rfl
  | succ n ih =>
    have := @stepsLeft_advance simulator results job (job.solo simulator results b n).2
      (job.solo simulator results b n).1
    rw [Job.solo]
    omega

/-- Three steps are enough. -/
theorem solo_ended {n : Nat} (h : 3 ≤ n) :
    (job.solo simulator results b n).1.outcome?.isSome := by
  have := @stepsLeft_solo simulator results b job n
  rw [Progress.outcome?_isSome_iff]
  omega

/-- After the end nothing changes. -/
theorem solo_of_ended {m n : Nat} (h : (job.solo simulator results b m).1.outcome?.isSome)
    (hle : m ≤ n) : job.solo simulator results b n = job.solo simulator results b m := by
  induction n, hle using Nat.le_induction with
  | base => rfl
  | succ n hle ih =>
    rw [Job.solo, ih]
    exact Job.advance_of_ended h

section

variable (hfits : job.Fits results b) (hsim : simulator.ConfinedTo job)
include hfits hsim

theorem nearby_solo (n : Nat) : Nearby results b (job.solo simulator results b n).2 := by
  induction n with
  | zero => exact .refl results b
  | succ n ih => exact ih.touch (advance_touches hfits hsim ih _)

theorem sound_solo (n : Nat) : (job.solo simulator results b n).1.Sound results b
    (job.solo simulator results b n).2 job := by
  induction n with
  | zero => rfl
  | succ n ih => exact advance_sound hfits hsim (nearby_solo hfits hsim n) ih

end

/-! ## Many pairs -/

/-- Jobs of different pairs that can be at work at the same time. -/
structure AtWork (simulator : Simulator) (results : Path) (b : Disk) (jobs : List Job) : Prop where
  fits : ∀ job ∈ jobs, job.Fits results b
  confined : ∀ job ∈ jobs, simulator.ConfinedTo job
  distinct : ∀ i ∈ jobs, ∀ j ∈ jobs, i.id = j.id → i = j

/-- Each pair is where it would be on its own after the steps it has taken, and nothing else has
changed. -/
structure Overlay (simulator : Simulator) (results : Path) (b : Disk) (jobs : List Job)
    (steps : Job → Nat) (w : Work) : Prop where
  nearby : Nearby results b w.disk
  others : ∀ place, (∀ job ∈ jobs, ¬ job.id.Owns results b place) →
    b.at? place = w.disk.at? place
  progress_eq : ∀ job ∈ jobs,
    w.progress job = (job.solo simulator results b (steps job)).1
  same : ∀ job ∈ jobs,
    job.id.SameOn results b w.disk (job.solo simulator results b (steps job)).2

variable {jobs : List Job} {steps steps' : Job → Nat} {w w' : Work}

theorem Overlay.start (simulator : Simulator) (results : Path) (b : Disk) (jobs : List Job) :
    Overlay simulator results b jobs (fun _ => 0) (Work.start b) :=
  ⟨.refl results b, fun _ _ => rfl, fun _ _ => rfl, fun _ _ _ _ => rfl⟩

/-- A step of a job keeps every pair where it would be on its own. -/
theorem Overlay.step (hwork : AtWork simulator results b jobs)
    (h : Overlay simulator results b jobs steps w) (hjob : job ∈ jobs)
    (hself : steps' job = steps job + 1) (hothers : ∀ other, other ≠ job →
      steps' other = steps other) :
    Overlay simulator results b jobs steps' (w.step simulator results job) := by
  have hfits := hwork.fits job hjob
  have hsim := hwork.confined job hjob
  have htouches := advance_touches hfits hsim h.nearby (w.progress job)
  have hsame := advance_same hfits hsim h.nearby (nearby_solo hfits hsim (steps job))
    (h.same job hjob) (w.progress job)
  have hsolo : job.solo simulator results b (steps' job) =
      job.advance simulator results (job.solo simulator results b (steps job)).2
        (w.progress job) := by
    rw [hself, h.progress_eq job hjob]
    rfl
  refine ⟨h.nearby.touch htouches, fun place hplace => ?_, fun other hother => ?_,
    fun other hother => ?_⟩
  · exact (h.others place hplace).trans (htouches.at?_eq place (hplace job hjob))
  · by_cases heq : other = job
    · subst heq
      rw [Work.step_progress_self, hsolo, hsame.1]
    · rw [Work.step_progress_of_ne heq, hothers other heq]
      exact h.progress_eq other hother
  · by_cases heq : other = job
    · subst heq
      rw [hsolo]
      exact hsame.2
    · rw [hothers other heq]
      intro place howns
      -- What the other pair owns is none of this pair's.
      have hnot : ¬ job.id.Owns results b place := fun h' =>
        heq (hwork.distinct other hother job hjob (owner_unique howns h'))
      exact (htouches.at?_eq place hnot).symm.trans (h.same other hother place howns)

/-- Every schedule keeps every pair where it would be on its own. -/
theorem Overlay.run (hwork : AtWork simulator results b jobs) {schedule : List Job}
    (hschedule : ∀ job ∈ schedule, job ∈ jobs) :
    Overlay simulator results b jobs (fun job => schedule.count job)
      ((Work.start b).run simulator results schedule) := by
  induction schedule using List.reverseRecOn with
  | nil => exact .start simulator results b jobs
  | append_singleton schedule job ih =>
    rw [Work.run_concat]
    refine (ih fun other hother => hschedule other (by simp [hother])).step hwork
      (hschedule job (by simp)) ?_ fun other hother => ?_
    · simp
    · simp [hother.symm]

/-- At any time each result is what is due. -/
theorem Overlay.sound (hwork : AtWork simulator results b jobs)
    (h : Overlay simulator results b jobs steps w) (hjob : job ∈ jobs) :
    (w.progress job).Sound results b w.disk job := by
  have hfits := hwork.fits job hjob
  have hsim := hwork.confined job hjob
  have hsame : job.id.SameOn results b (job.solo simulator results b (steps job)).2 w.disk :=
    fun place howns => (h.same job hjob place howns).symm
  have hagree : ∀ name ∈ job.id.workNames,
      (job.solo simulator results b (steps job)).2.AgreeAt w.disk (results.join name) :=
    fun name hname => (nearby_solo hfits hsim (steps job)).agreeAt h.nearby hsame hname
  have houtput := hagree _ (partialName_mem job.id)
  rw [← hfits.output_eq] at houtput
  rw [h.progress_eq job hjob]
  exact (sound_solo hfits hsim (steps job)).congr (hagree _ (resultName_mem job.id)) houtput

/-- Work in which every job has ended is the same, whatever the order was. -/
theorem Overlay.eq_of_ended (h : Overlay simulator results b jobs steps w)
    (h' : Overlay simulator results b jobs steps' w')
    (hended : ∀ job ∈ jobs, (w.progress job).outcome?.isSome)
    (hended' : ∀ job ∈ jobs, (w'.progress job).outcome?.isSome) :
    (∀ job ∈ jobs, w.progress job = w'.progress job) ∧ w.disk.current = w'.disk.current ∧
      ∀ place, w.disk.at? place = w'.disk.at? place := by
  have hsolo : ∀ job ∈ jobs, job.solo simulator results b (steps job) =
      job.solo simulator results b (steps' job) := by
    intro job hjob
    have hdone := hended job hjob
    have hdone' := hended' job hjob
    rw [h.progress_eq job hjob] at hdone
    rw [h'.progress_eq job hjob] at hdone'
    rcases Nat.le_total (steps job) (steps' job) with hle | hle
    · exact (solo_of_ended hdone hle).symm
    · exact solo_of_ended hdone' hle
  refine ⟨fun job hjob => ?_, ?_, fun place => ?_⟩
  · rw [h.progress_eq job hjob, h'.progress_eq job hjob, hsolo job hjob]
  · exact h.nearby.directories.current.symm.trans h'.nearby.directories.current
  · by_cases howned : ∃ job ∈ jobs, job.id.Owns results b place
    · obtain ⟨job, hjob, howns⟩ := howned
      rw [h.same job hjob place howns, h'.same job hjob place howns, hsolo job hjob]
    · push Not at howned
      rw [← h.others place howned, ← h'.others place howned]

/-! ## The jobs of a directory -/

/-- The logs of a directory are no files of pairs. -/
theorem agreeAt_log {name : String} (hlogs : b.find logs = .ok (place, .directory))
    (hname : IsEntryName name) (hnot : ∀ id : PairId, name ∉ id.workNames)
    (hd : Nearby results b d) : b.AgreeAt d (logs.join name) := by
  refine ⟨hd.directories.locate_join hlogs hname, fun q hq => hd.at?_eq q ?_⟩
  rintro id ⟨name', hname', hlocate⟩
  obtain ⟨-, p, -, -, rfl⟩ := (Disk.locate_join hname).mp hq
  obtain ⟨-, p', -, -, hplace⟩ :=
    (Disk.locate_join (PairId.isEntryName_of_mem_workNames hname')).mp hlocate
  obtain ⟨rfl, -⟩ := List.cons.inj hplace
  exact hnot id hname'

theorem fits_jobIn {id : PairId} (hlogs : b.find logs = .ok (place, .directory))
    (hresult : b.isDirectory (results.join id.resultName) = false)
    (houtput : b.isDirectory (results.join id.partialName) = false) :
    (id.jobIn logs results).Fits results b := by
  refine ⟨id.inDirectory_jobIn logs results, fun d hd => ?_, fun d hd => ?_, ?_, ?_⟩
  all_goals simp only [PairId.jobIn, PairId.job, Job.result]
  · exact agreeAt_log hlogs id.scenario.isEntryName_flowLogName
      id.scenario.flowLogName_notMem_workNames hd
  · exact agreeAt_log hlogs id.isEntryName_allocationLogName
      id.allocationLogName_notMem_workNames hd
  · exact hresult
  · exact houtput

/-- The jobs of a batch can be at work at the same time. -/
theorem BatchRun.atWork {batch : BatchRun} (hlogs : b.find logs = .ok (place, .directory))
    (hjobs : batch.runs.map PairRun.job = d.jobsAt place logs results)
    (hconfined : ∀ run ∈ batch.runs, simulator.ConfinedTo run.job)
    (hfiles : ∀ run ∈ batch.runs, b.isDirectory (run.job.result results) = false ∧
      b.isDirectory run.job.output = false) :
    AtWork simulator results b (batch.runs.map PairRun.job) := by
  refine ⟨fun job hjob => ?_, fun job hjob => ?_, fun i hi j hj hid => ?_⟩
  · obtain ⟨run, hrun, rfl⟩ := List.mem_map.mp hjob
    obtain ⟨hresult, houtput⟩ := hfiles run hrun
    obtain ⟨-, -, heq⟩ := job_eq_jobIn hjobs hrun
    rw [heq] at hresult houtput ⊢
    exact fits_jobIn hlogs hresult houtput
  · obtain ⟨run, hrun, rfl⟩ := List.mem_map.mp hjob
    exact hconfined run hrun
  · obtain ⟨p, hp, rfl⟩ := List.mem_map.mp hi
    obtain ⟨q, hq, rfl⟩ := List.mem_map.mp hj
    rw [run_unique (pairwise_runs hjobs) hp hq hid]

/-- **The order of work does not matter.** Let the simulator be confined to the files of each job of
a batch, and let there be no directory in the place of a result or an output when the runs begin.
Let the jobs take their steps in the order of any schedule. Then

* each result is what is due at that time: what it was at first as long as the pair waits, nothing
  once it has taken a step, and what its simulator has left once that is published;
* a job that has taken three steps has ended;
* if all jobs have ended, the outcomes and the disk are those of the batch, which runs the pairs one
  after the other. -/
theorem runAll_interleaving {allow : Bool} {batch : BatchRun} {before after : Disk}
    (hresults : Disk.prepareOutput results allow d = (.ok (), before))
    (hbatch : runAll simulator logs results allow d = (.ok batch, after))
    (hconfined : ∀ run ∈ batch.runs, simulator.ConfinedTo run.job)
    (hfiles : ∀ run ∈ batch.runs, before.isDirectory (run.job.result results) = false ∧
      before.isDirectory run.job.output = false)
    (schedule : List Job) (hschedule : ∀ job ∈ schedule, job ∈ batch.runs.map PairRun.job) :
    let w := (Work.start before).run simulator results schedule
    (∀ run ∈ batch.runs, (w.progress run.job).Sound results before w.disk run.job) ∧
      (∀ run ∈ batch.runs, 3 ≤ schedule.count run.job → (w.progress run.job).outcome?.isSome) ∧
        ((∀ run ∈ batch.runs, (w.progress run.job).outcome?.isSome) →
          (∀ run ∈ batch.runs, (w.progress run.job).outcome? = some run.outcome) ∧
            w.disk.current = after.current ∧ ∀ place, w.disk.at? place = after.at? place) := by
  intro w
  obtain ⟨place, hlogs, hjobs, -, hturns⟩ := turns_of_runAll hresults hbatch
  have hlogs' : before.find logs = .ok (place, .directory) := by
    have hgrows := Disk.grows_prepareOutput results allow d
    rw [hresults] at hgrows
    exact hgrows.find_directory hlogs
  have hwork := BatchRun.atWork hlogs' hjobs hconfined hfiles
  have hoverlay := Overlay.run hwork hschedule
  refine ⟨fun run hrun => ?_, fun run hrun hcount => ?_, fun hended => ?_⟩
  · exact hoverlay.sound hwork (List.mem_map_of_mem hrun)
  · rw [hoverlay.progress_eq run.job (List.mem_map_of_mem hrun)]
    exact solo_ended hcount
  · -- The batch itself is the schedule in which each job takes its steps at once.
    have hsequence : ∀ job ∈ inTurn (batch.runs.map PairRun.job),
        job ∈ batch.runs.map PairRun.job := fun job hjob => mem_inTurn.mp hjob
    obtain ⟨hdisk, houtcome, -⟩ :=
      @Turns.run_inTurn simulator results (Work.start before) batch.runs after hturns
        (BatchRun.distinct_jobs hjobs) fun _ _ => rfl
    obtain ⟨hprogress, hcurrent, hentries⟩ :=
      hoverlay.eq_of_ended (Overlay.run hwork hsequence)
        (List.forall_mem_map.mpr hended) (List.forall_mem_map.mpr fun run hrun => by
          rw [houtcome run hrun]
          rfl)
    rw [hdisk] at hcurrent hentries
    refine ⟨fun run hrun => ?_, hcurrent, hentries⟩
    rw [hprogress run.job (List.mem_map_of_mem hrun)]
    exact houtcome run hrun

/-! ## Two pairs at work -/

/-- Copying goes the same way on disks that agree at the files of the job. -/
theorem copying_cases {d e : Disk} (hdirectories : d.SameDirectories e)
    (hallocation : d.AgreeAt e job.allocationLog) (houtput : d.AgreeAt e job.output) :
    (∃ fault, copying job d = (.error fault, d) ∧ copying job e = (.error fault, e)) ∨
      ∃ place contents executable, d.locate job.output = .ok place ∧
        d.at? place ≠ some .directory ∧
          copying job d = (.ok (), d.put place (.file contents executable)) ∧
            copying job e = (.ok (), e.put place (.file contents executable)) := by
  simp only [copying, DiskAction.change, ← hallocation.read_eq]
  cases d.read job.allocationLog with
  | error error => exact .inl ⟨_, rfl, rfl⟩
  | ok contents =>
    rcases houtput.write hdirectories contents with
      ⟨error, hd, he⟩ | ⟨place, executable, hlocate, hfile, hd, he⟩
    · exact .inl ⟨.io error, by simp [Except.bind, hd, Except.mapError],
        by simp [Except.bind, he, Except.mapError]⟩
    · exact .inr ⟨place, contents, executable, hlocate, hfile,
        by simp [Except.bind, hd, Except.mapError], by simp [Except.bind, he, Except.mapError]⟩

/-- The simulator that copies allocation logs is confined to the files of each job. -/
theorem confinedTo_copying (job : Job) : copying.ConfinedTo job := by
  have hself : ∀ (d : Disk) (path : Path), d.AgreeAt d path := fun d _ => ⟨rfl, fun _ _ => rfl⟩
  refine ⟨fun d e hdirectories hagree => ?_, fun d => ?_, fun d place hplace => ?_⟩
  · rcases copying_cases hdirectories (hagree job.allocationLog (by simp))
        (hagree job.output (by simp)) with
      ⟨fault, hd, he⟩ | ⟨place, contents, executable, -, hfile, hd, he⟩
    · rw [hd, he]
      exact ⟨rfl, fun path hpath q hq => (hagree path (by simp_all)).at?_eq q hq⟩
    · have hne := Disk.ne_nil_of_ne_directory hfile
      rw [hd, he]
      refine ⟨rfl, fun path hpath q hq => ?_⟩
      rw [Disk.at?_put _ _ _ _ hne, Disk.at?_put _ _ _ _ hne,
        (hagree path (by simp_all)).at?_eq q hq]
  · rcases copying_cases (.refl d) (hself d job.allocationLog) (hself d job.output) with
      ⟨fault, hd, -⟩ | ⟨place, contents, executable, -, hfile, hd, -⟩
    · rw [hd]
      exact .refl d
    · rw [hd]
      exact Disk.sameDirectories_put hfile (by simp)
  · rcases copying_cases (.refl d) (hself d job.allocationLog) (hself d job.output) with
      ⟨fault, hd, -⟩ | ⟨q, contents, executable, hlocate, hfile, hd, -⟩
    · rw [hd]
    · rw [hd, Disk.at?_put _ _ _ _ (Disk.ne_nil_of_ne_directory hfile), if_neg]
      rintro rfl
      exact hplace job.output (by simp) hlocate

/-- The two jobs of the directory with two scenarios. -/
def twoJobs : List Job :=
  [(⟨⟨0⟩, ⟨0⟩⟩ : PairId).jobIn ⟨"l"⟩ ⟨"r"⟩, (⟨⟨0⟩, ⟨1⟩⟩ : PairId).jobIn ⟨"l"⟩ ⟨"r"⟩]

theorem name_of_fileAt_twoScenarios {name : String} (h : twoScenarios.FileAt [name, "l"]) :
    name ∈ ["flows__0.dat", "flows__1.dat", "alloc__0_0.dat", "alloc__0_1.dat",
      "alloc__2_0.dat"] := by
  obtain ⟨entry, hentry, -⟩ := h
  by_contra hnot
  simp only [List.mem_cons, List.not_mem_nil, or_false, not_or, eq_comm (a := name)] at hnot
  simp [twoScenarios, Disk.at?_put, hnot] at hentry
  simp [Disk.at?] at hentry

theorem mem_twoJobs {job : Job} (h : job ∈ twoScenarios.jobsAt ["l"] ⟨"l"⟩ ⟨"r"⟩) :
    job ∈ twoJobs := by
  obtain ⟨hallocation, hflow, hjob⟩ := mem_jobsAt.mp h
  have hallocation := name_of_fileAt_twoScenarios hallocation
  have hflow := name_of_fileAt_twoScenarios hflow
  simp only [List.mem_cons, List.not_mem_nil, or_false, ← PairId.ofAllocationLogName?_eq_some,
    ← ScenarioId.ofFlowLogName?_eq_some] at hallocation hflow
  simp only [show PairId.ofAllocationLogName? "flows__0.dat" = none by decide +kernel,
    show PairId.ofAllocationLogName? "flows__1.dat" = none by decide +kernel,
    show PairId.ofAllocationLogName? "alloc__0_0.dat" = some ⟨⟨0⟩, ⟨0⟩⟩ by decide +kernel,
    show PairId.ofAllocationLogName? "alloc__0_1.dat" = some ⟨⟨0⟩, ⟨1⟩⟩ by decide +kernel,
    show PairId.ofAllocationLogName? "alloc__2_0.dat" = some ⟨⟨2⟩, ⟨0⟩⟩ by decide +kernel,
    reduceCtorEq, false_or, Option.some.injEq] at hallocation
  rw [hjob]
  rcases hallocation with hid | hid | hid
  · simp [← hid, twoJobs]
  · simp [← hid, twoJobs]
  · -- The third allocation log has no flow log.
    rw [← hid] at hflow
    exact absurd hflow (by decide +kernel)

theorem mem_jobsAt_twoScenarios {job : Job} :
    job ∈ twoScenarios.jobsAt ["l"] ⟨"l"⟩ ⟨"r"⟩ ↔ job ∈ twoJobs := by
  refine ⟨mem_twoJobs, fun h => ?_⟩
  have hfile : ∀ name ∈ ["flows__0.dat", "alloc__0_0.dat", "alloc__0_1.dat"],
      twoScenarios.FileAt [name, "l"] := by
    intro name hname
    have hentry : ∀ name ∈ ["flows__0.dat", "alloc__0_0.dat", "alloc__0_1.dat"],
        twoScenarios.at? [name, "l"] = some (.file .empty false) := by decide +kernel
    exact ⟨_, hentry name hname, rfl⟩
  have hnames : ∀ job ∈ twoJobs,
      job.id.allocationLogName ∈ ["flows__0.dat", "alloc__0_0.dat", "alloc__0_1.dat"] ∧
        job.id.scenario.flowLogName ∈ ["flows__0.dat", "alloc__0_0.dat", "alloc__0_1.dat"] ∧
          job = job.id.jobIn ⟨"l"⟩ ⟨"r"⟩ := by decide +kernel
  obtain ⟨hallocation, hflow, hjob⟩ := hnames job h
  exact mem_jobsAt.mpr ⟨hfile _ hallocation, hfile _ hflow, hjob⟩

theorem jobsAt_twoScenarios : twoScenarios.jobsAt ["l"] ⟨"l"⟩ ⟨"r"⟩ = twoJobs := by
  have hasymm : Std.Asymm fun a b : Job => a.id < b.id := ⟨fun _ _ => PairId.lt_asymm⟩
  refine (pairwise_jobsAt twoScenarios _ _ _).eq_of_mem_iff ?_ fun job => mem_jobsAt_twoScenarios
  exact List.pairwise_pair.mpr (.inr ⟨rfl, by decide⟩)

/-- The steps of the two pairs come in turn, and yet the disk is that of the batch. -/
theorem runAll_interleaving_twoScenarios : ∃ batch after,
    runAll copying ⟨"l"⟩ ⟨"r"⟩ true twoScenarios = (.ok batch, after) ∧
      ∀ place, ((Work.start twoScenarios).run copying ⟨"r"⟩
        (twoJobs ++ twoJobs.reverse ++ twoJobs)).disk.at? place = after.at? place := by
  have hresults : Disk.prepareOutput ⟨"r"⟩ true twoScenarios = (.ok (), twoScenarios) :=
    Disk.prepareOutput_of_isDirectory (by decide +kernel)
  obtain ⟨runs, after, hrun, hjobs, -⟩ :=
    @turns_mapM copying ⟨"r"⟩ (twoScenarios.jobsAt ["l"] ⟨"l"⟩ ⟨"r"⟩) twoScenarios
  have hbatch := runAll_eq find_twoScenarios hresults hrun
  have hjob : ∀ run ∈ runs, run.job ∈ twoJobs := by
    intro run hrun
    rw [← mem_jobsAt_twoScenarios, ← hjobs]
    exact List.mem_map_of_mem hrun
  have hfiles : ∀ job ∈ twoJobs, twoScenarios.isDirectory (job.result ⟨"r"⟩) = false ∧
      twoScenarios.isDirectory job.output = false := by decide +kernel
  have hcount : ∀ job ∈ twoJobs, 3 ≤ (twoJobs ++ twoJobs.reverse ++ twoJobs).count job := by
    decide +kernel
  refine ⟨_, after, hbatch, ?_⟩
  have h := runAll_interleaving hresults hbatch (fun run _ => confinedTo_copying run.job)
    (fun run hrun => hfiles run.job (hjob run hrun)) (twoJobs ++ twoJobs.reverse ++ twoJobs)
    fun job hmem => by
      rw [hjobs, mem_jobsAt_twoScenarios]
      simpa using hmem
  exact (h.2.2 fun run hrun => h.2.1 run hrun (hcount run.job (hjob run hrun))).2.2

end RackTraffic
