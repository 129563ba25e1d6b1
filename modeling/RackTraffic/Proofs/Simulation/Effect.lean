import RackTraffic.Proofs.Simulation.Due
import RackTraffic.Proofs.Simulation.Interleaving
import RackTraffic.Proofs.Simulation.Launch

/-!
# What a batch does to the disk

**Theorem (`runAll_effect`).** A batch that cannot list its logs or may not use the output directory
changes nothing. Otherwise every pair that has succeeded has what its simulator has left as its
result, every pair that has failed has no result and fails as its simulator did, no output is left
in its place, and whatever has another name than the files of the pairs that are run stays as it
was.

It is so whatever the order of work (`BatchRun.ofSchedule_effect`), even if the order decides which
pairs succeed because simulators read the results of others (`ofSchedule_effect_following`).

The pairs are ready if the paths of their files are not too long and no directory is in the way. A
path that leads through a directory with the name of a result makes it when the output directory is
prepared, and then it is in the way (`runAll_through_result`). A path with many slashes leads where
a short one does, but no name can be joined to it (`runAll_beyond_maxPathBytes`).
-/

namespace RackTraffic

variable {simulator : Simulator} {results : Path} {place q : Place} {d e : Disk} {job : Job}

/-! ## Jobs of a directory -/

/-- A shorter name makes a shorter path. -/
theorem utf8ByteSize_join_le {path : Path} {name name' : String} (hname : IsEntryName name)
    (hname' : IsEntryName name') (hle : name.utf8ByteSize ≤ name'.utf8ByteSize) :
    (path.join name).text.utf8ByteSize ≤ (path.join name').text.utf8ByteSize := by
  rw [Path.join, Path.join, if_neg hname.head?_ne_slash, if_neg hname'.head?_ne_slash]
  split_ifs <;> simp only [String.utf8ByteSize_append] <;> omega

theorem PairId.utf8ByteSize_resultName_le (id : PairId) :
    id.resultName.utf8ByteSize ≤ id.partialName.utf8ByteSize := by
  rw [partialName, String.utf8ByteSize_append, String.utf8ByteSize_append]
  omega

/-- A job of the directory is ready when the output directory has been prepared, if the paths of its
files are not too long and do not lead to directories. -/
theorem ready_of_prepareOutput {allow : Bool} (hcurrent : d.at? d.current = some .directory)
    (hprepared : Disk.prepareOutput results allow d = (.ok (), e)) (hjob : job.InDirectory results)
    (hsize : job.output.text.utf8ByteSize ≤ Disk.maxPathBytes)
    (hresult : e.isDirectory (job.result results) = false)
    (houtput : e.isDirectory job.output = false) :
    job.Ready results (d.destination results) e := by
  have hresultName := job.id.isEntryName_resultName
  have hpartialName := job.id.isEntryName_partialName
  rw [hjob.output_eq] at hsize
  have hlocate := Disk.locate_join_of_prepareOutput hcurrent hprepared hpartialName hsize
  have hlocate' := Disk.locate_join_of_prepareOutput hcurrent hprepared hresultName
    (Nat.le_trans (utf8ByteSize_join_le hresultName hpartialName
      job.id.utf8ByteSize_resultName_le) hsize)
  rw [← hjob.output_eq] at hlocate
  exact ⟨hjob, (Disk.growsBy_of_prepareOutput hprepared).destination_eq results, hlocate', hlocate,
    Disk.ne_directory_of_locate hresult hlocate', Disk.ne_directory_of_locate houtput hlocate⟩

/-! ## Batches that change nothing -/

section

variable {logs : Path} {allow : Bool}

theorem runAll_of_list_error {error : IoError} (h : d.list logs = .error error) :
    runAll simulator logs results allow d = (.error (.io error), d) := by
  rw [runAll, DiskAction.bind_apply]
  simp only [DiskAction.look, Disk.flowLogs, h, Except.map, Except.mapError]

theorem runAll_of_prepareOutput_error {entries : List (String × Entry)} {fault : OutputFault}
    (hlist : d.list logs = .ok entries)
    (h : Disk.prepareOutput results allow d = (.error fault, e)) :
    runAll simulator logs results allow d = (.error (.output fault), e) := by
  obtain ⟨place, hlogs, -⟩ := Disk.list_eq_ok.mp hlist
  simp [runAll, DiskAction.look, DiskAction.mapFailure, DiskAction.bind_apply,
    Disk.flowLogs_eq_ok hlogs, Disk.allocationLogs_eq_ok hlogs, h, Except.mapError,
    -bind_pure_comp]

end

/-! ## The effect of a batch -/

/-- What a batch has done to the disk. -/
structure BatchRun.Effect (simulator : Simulator) (logs results : Path) (d : Disk)
    (batch : BatchRun) (after : Disk) : Prop where
  /-- The result of a pair that has succeeded is what its simulator has left as its output. -/
  succeeded : ∀ id ∈ batch.succeeded, ∃ given left contents,
    (id.jobIn logs results, given) ∈ batch.calls ∧
      simulator (id.jobIn logs results) given = (.ok (), left) ∧
      left.read (results.join id.partialName) = .ok contents ∧
      after.read (results.join id.resultName) = .ok contents
  /-- A pair that has failed has failed as its simulator did, and it has no result. -/
  failed : ∀ id fault, (id, fault) ∈ batch.failed → ∃ given left,
    (id.jobIn logs results, given) ∈ batch.calls ∧
      simulator (id.jobIn logs results) given = (.error fault, left) ∧
      after.Vacant (results.join id.resultName)
  /-- No output is left in its place. -/
  output : ∀ run ∈ batch.runs, after.Vacant run.job.output
  /-- Whatever has another name than the files of the pairs that are run stays. -/
  kept : ∀ q entry, (∀ name ∈ workNamesOf batch.runs, q ≠ name :: d.destination results) →
    d.at? q = some entry → after.at? q = some entry
  /-- Nothing of another name is new but directories that the path of the output directory passes.
  -/
  added : ∀ q entry, (∀ name ∈ workNamesOf batch.runs, q ≠ name :: d.destination results) →
    after.at? q = some entry →
      d.at? q = some entry ∨ entry = .directory ∧ results.Passes (d.start results) q
  /-- Logs stay, also in the output directory. -/
  logs : ∀ name, (∃ s : ScenarioId, name = s.flowLogName) ∨
    (∃ id : PairId, name = id.allocationLogName) → ∀ place entry,
      d.at? (name :: place) = some entry → after.at? (name :: place) = some entry
  /-- The files of pairs that are not run stay. -/
  others : ∀ id, (∀ run ∈ batch.runs, run.job.id ≠ id) → ∀ name ∈ id.workNames,
    ∀ place entry, d.at? (name :: place) = some entry → after.at? (name :: place) = some entry

variable {logs : Path} {allow : Bool} {before after : Disk} {batch : BatchRun}

/-- An entry whose name is none of the names of the pairs that are run is none of their files. -/
theorem ne_of_notMem_workNames {runs : List PairRun} {name : String} {place' : Place}
    (hname : ∀ run ∈ runs, name ∉ run.job.id.workNames) :
    ∀ other ∈ workNamesOf runs, name :: place' ≠ other :: place := by
  intro other hother heq
  obtain ⟨run, hrun, hwork⟩ := List.mem_flatMap.mp hother
  obtain ⟨rfl, -⟩ := List.cons.inj heq
  exact hname run hrun hwork

/-- If each run has had its effect on a prepared disk, and nothing else has changed, the batch has
its effect. -/
theorem BatchRun.effect_of_runs (hgrows : d.GrowsBy (results.Passes (d.start results)) before)
    (hjobs : batch.runs.map PairRun.job = d.jobsAt place logs results)
    (hready : ∀ run ∈ batch.runs, run.job.Ready results (d.destination results) before)
    (heffects : ∀ run ∈ batch.runs, run.Effect simulator (d.destination results) after)
    (hchanged : before.ChangedIn (d.destination results) (workNamesOf batch.runs) after) :
    batch.Effect simulator logs results d after := by
  have hafter : ∀ run ∈ batch.runs, run.job.Ready results (d.destination results) after :=
    fun run hrun => (hready run hrun).congr hchanged.directories
  have hkept : ∀ q entry, (∀ name ∈ workNamesOf batch.runs, q ≠ name :: d.destination results) →
      d.at? q = some entry → after.at? q = some entry := by
    intro q entry hq hentry
    rw [hchanged.at?_eq q hq]
    exact hgrows.at?_eq q entry hentry
  have hforeign : ∀ name, (∀ run ∈ batch.runs, name ∉ run.job.id.workNames) → ∀ place entry,
      d.at? (name :: place) = some entry → after.at? (name :: place) = some entry :=
    fun name hname place entry => hkept _ entry (ne_of_notMem_workNames hname)
  refine ⟨fun id hid => ?succeeded, fun id fault hid => ?failed, fun run hrun => ?output, hkept,
    fun q entry hq hentry => ?added, fun name hname => ?logs, fun id hid name hname => ?others⟩
  case succeeded =>
    obtain ⟨run, hrun, rfl, houtcome⟩ := BatchRun.mem_succeeded.mp hid
    obtain ⟨given, left, hgiven, hcall, hpublished⟩ := (heffects run hrun).called
    obtain ⟨contents, executable, hleft, hentry⟩ := hpublished houtcome
    rw [← (job_eq_jobIn hjobs hrun).2.2]
    refine ⟨given, left, contents, BatchRun.mem_calls.mpr ⟨run, hrun, rfl, hgiven⟩,
      houtcome ▸ hcall, (hafter run hrun).output_eq ▸ hleft, ?_⟩
    exact Disk.read_of_locate (Job.Ready.endsInSlash_result run.job) (hafter run hrun).result hentry
  case failed =>
    obtain ⟨run, hrun, rfl, houtcome⟩ := BatchRun.mem_failed.mp hid
    obtain ⟨given, left, hgiven, hcall, -⟩ := (heffects run hrun).called
    rw [← (job_eq_jobIn hjobs hrun).2.2]
    exact ⟨given, left, BatchRun.mem_calls.mpr ⟨run, hrun, rfl, hgiven⟩, houtcome ▸ hcall,
      _, (hafter run hrun).result, (heffects run hrun).failed fault houtcome⟩
  case output => exact ⟨_, (hafter run hrun).output, (heffects run hrun).output⟩
  case added =>
    rw [hchanged.at?_eq q hq] at hentry
    exact hgrows.only q entry hentry
  case logs =>
    refine hforeign name fun run _ => ?_
    rcases hname with ⟨s, rfl⟩ | ⟨id, rfl⟩
    · exact s.flowLogName_notMem_workNames _
    · exact id.allocationLogName_notMem_workNames _
  case others =>
    exact hforeign name fun run hrun hwork => hid run hrun (PairId.eq_of_mem_workNames hwork hname)

section

variable (hcurrent : d.at? d.current = some .directory)
  (hprepared : Disk.prepareOutput results allow d = (.ok (), before))
include hcurrent hprepared

/-- **The effect of a batch, whatever the order of work.** Let the jobs of a directory take their
steps in the order of any schedule, each job at least three times, and let the simulator keep to the
files of the jobs, whatever it reads. Then the batch has its effect. -/
theorem BatchRun.ofSchedule_effect (skipped : List ScenarioId)
    (hsim : ∀ job ∈ d.jobsAt place logs results, simulator.KeepsTo job)
    (hsize : ∀ job ∈ d.jobsAt place logs results,
      job.output.text.utf8ByteSize ≤ Disk.maxPathBytes)
    (hfiles : ∀ job ∈ d.jobsAt place logs results,
      before.isDirectory (job.result results) = false ∧ before.isDirectory job.output = false)
    {schedule : List Job} (hschedule : ∀ job ∈ schedule, job ∈ d.jobsAt place logs results)
    (hcount : ∀ job ∈ d.jobsAt place logs results, 3 ≤ schedule.count job) :
    (ofSchedule simulator results before (d.jobsAt place logs results) skipped schedule).Effect
      simulator logs results d ((Work.start before).run simulator results schedule).disk := by
  have hjobs := @jobs_ofSchedule simulator results before (d.jobsAt place logs results) schedule
    skipped fun job hjob => Work.ended_of_count _ (hcount job hjob)
  have hready : ∀ job ∈ d.jobsAt place logs results,
      job.Ready results (d.destination results) before := by
    intro job hjob
    refine ready_of_prepareOutput hcurrent hprepared ?_ (hsize job hjob) (hfiles job hjob).1
      (hfiles job hjob).2
    rw [(mem_jobsAt.mp hjob).2.2]
    exact job.id.inDirectory_jobIn logs results
  have hdistinct : ∀ i ∈ d.jobsAt place logs results, ∀ j ∈ d.jobsAt place logs results,
      i.id = j.id → i = j := by
    intro i hi j hj hid
    rw [(mem_jobsAt.mp hi).2.2, (mem_jobsAt.mp hj).2.2, hid]
  obtain ⟨hdue, hchanged⟩ := Work.due_run hdistinct hready hsim hschedule
  refine effect_of_runs (Disk.growsBy_of_prepareOutput hprepared) hjobs (fun run hrun => ?_)
    (fun run hrun => ?_) ?_
  · exact hready run.job (mem_runs_ofSchedule.mp hrun).1
  · obtain ⟨hjob, houtcome, hgiven⟩ := mem_runs_ofSchedule.mp hrun
    have heffect := (hdue run.job hjob).effect houtcome
    rwa [hgiven] at heffect
  · rwa [← hjobs, List.flatMap_map] at hchanged

/-- A batch that can do its work has its effect. -/
theorem BatchRun.effect_of_runAll
    (h : runAll simulator logs results allow d = (.ok batch, after))
    (hsim : ∀ run ∈ batch.runs, simulator.KeepsTo run.job)
    (hsize : ∀ run ∈ batch.runs, run.job.output.text.utf8ByteSize ≤ Disk.maxPathBytes)
    (hfiles : ∀ run ∈ batch.runs, before.isDirectory (run.job.result results) = false ∧
      before.isDirectory run.job.output = false) :
    batch.Effect simulator logs results d after := by
  obtain ⟨place, -, hbatch, rfl⟩ := runAll_eq_ofSchedule hprepared h
  have hcount : ∀ job ∈ d.jobsAt place logs results,
      3 ≤ (inTurn (d.jobsAt place logs results)).count job := fun _ => three_le_count_inTurn
  have hjobs : batch.runs.map PairRun.job = d.jobsAt place logs results := by
    rw [hbatch]
    exact jobs_ofSchedule fun job hjob => Work.ended_of_count _ (hcount job hjob)
  have hrun : ∀ {P : Job → Prop}, (∀ run ∈ batch.runs, P run.job) →
      ∀ job ∈ d.jobsAt place logs results, P job := by
    intro P hP
    rw [← hjobs]
    exact List.forall_mem_map.mpr hP
  rw [hbatch]
  exact ofSchedule_effect hcurrent hprepared _ (hrun hsim) (hrun hsize) (hrun hfiles)
    (fun _ => mem_inTurn.mp) hcount

end

/-- **The effect of a batch on the disk.** A batch whose logs cannot be listed, or whose output
directory may not be used, ends at once with the disk as it was, whatever the simulator would do.

Otherwise let the simulator keep to the files of the jobs. If the output directory is such that,
once it is prepared, no directory is in the place of a result or of an output, and if the paths of
the outputs are not too long, then the batch has done what `BatchRun.Effect` tells and nothing else.
-/
theorem runAll_effect (simulator : Simulator) (logs results : Path) (allow : Bool) (d : Disk) :
    (∀ error, d.list logs = .error error →
      runAll simulator logs results allow d = (.error (.io error), d)) ∧
    (∀ entries, d.list logs = .ok entries →
      (d.contains results = true → d.isDirectory results = false →
        runAll simulator logs results allow d =
          (.error (.output (.notADirectory results)), d)) ∧
      (d.isDirectory results = true → allow = false →
        runAll simulator logs results allow d = (.error (.output (.exists results)), d))) ∧
    ∀ batch before after, d.at? d.current = some .directory →
      Disk.prepareOutput results allow d = (.ok (), before) →
      runAll simulator logs results allow d = (.ok batch, after) →
      (∀ run ∈ batch.runs, simulator.KeepsTo run.job) →
      (∀ run ∈ batch.runs, run.job.output.text.utf8ByteSize ≤ Disk.maxPathBytes) →
      (∀ run ∈ batch.runs, before.isDirectory (run.job.result results) = false ∧
        before.isDirectory run.job.output = false) →
          batch.Effect simulator logs results d after := by
  refine ⟨fun error => runAll_of_list_error, fun entries hlist => ⟨fun hcontains hdirectory => ?_,
    fun hdirectory hallow => ?_⟩, fun batch before after => BatchRun.effect_of_runAll⟩
  · refine runAll_of_prepareOutput_error hlist ?_
    rw [Disk.prepareOutput_apply, if_pos hcontains, if_pos hdirectory]
  · refine runAll_of_prepareOutput_error hlist ?_
    rw [Disk.prepareOutput_apply, if_pos (Disk.contains_of_isDirectory hdirectory),
      if_neg (by simp [hdirectory]), if_pos hallow]

/-! ## Two batches -/

/-- A simulator whose results are copies of other files. -/
def copyingFrom (source : Job → Path) : Simulator := fun job =>
  DiskAction.change fun d =>
    ((d.read (source job)).bind fun contents => d.write job.output contents).mapError .io

/-- Either nothing is copied, or there is a new file where the output belongs. -/
theorem copyingFrom_cases (source : Job → Path) (job : Job) (d : Disk) :
    (∃ fault, copyingFrom source job d = (.error fault, d)) ∨
      ∃ place contents executable, d.locate job.output = .ok place ∧
        d.at? place ≠ some .directory ∧
          copyingFrom source job d = (.ok (), d.put place (.file contents executable)) := by
  simp only [copyingFrom, DiskAction.change]
  cases d.read (source job) with
  | error error => exact .inl ⟨_, rfl⟩
  | ok contents =>
    rcases (Disk.AgreeAt.refl d job.output).write (.refl d) contents with
      ⟨error, hwrite, -⟩ | ⟨place, executable, hlocate, hfile, hwrite, -⟩
    · exact .inl ⟨.io error, by simp [Except.bind, hwrite, Except.mapError]⟩
    · exact .inr ⟨place, contents, executable, hlocate, hfile,
        by simp [Except.bind, hwrite, Except.mapError]⟩

/-- A simulator that copies files keeps to the files of each job, whatever it copies. -/
theorem keepsTo_copyingFrom (source : Job → Path) (hjob : job.InDirectory results) :
    (copyingFrom source).KeepsTo job := by
  refine ⟨fun d => ?_, fun d q hq => ?_, fun d left h => ?_⟩
  all_goals
    rcases copyingFrom_cases source job d with
      ⟨fault, hcopy⟩ | ⟨place, contents, executable, hlocate, hfile, hcopy⟩
  · rw [hcopy]
    exact .refl d
  · rw [hcopy]
    exact Disk.sameDirectories_put hfile (by simp)
  · rw [hcopy]
  · rw [hcopy, Disk.at?_put _ _ _ _ (Disk.ne_nil_of_ne_directory hfile), if_neg]
    rintro rfl
    exact hq job.output (by simp) hlocate
  · rw [hcopy] at h
    cases h
  · rw [hcopy] at h
    cases h
    have hslash : job.output.endsInSlash = false := by
      rw [hjob.output_eq]
      exact Path.endsInSlash_join job.id.isEntryName_partialName
    have hsame : d.SameDirectories (d.put place (.file contents executable)) :=
      Disk.sameDirectories_put hfile (by simp)
    refine Disk.isFile_iff.mpr ⟨place, contents, executable,
      Disk.find_of_locate hslash (hsame.locate_ok hlocate) ?_⟩
    rw [Disk.at?_put _ _ _ _ (Disk.ne_nil_of_ne_directory hfile), if_pos rfl]

theorem keepsTo_copying (hjob : job.InDirectory results) : copying.KeepsTo job :=
  keepsTo_copyingFrom Job.allocationLog hjob

/-- A simulator that makes the second result of a scenario from the first. -/
def following : Simulator :=
  copyingFrom fun job => if job.id.variant = ⟨0⟩ then job.allocationLog else ⟨"r/0_0.txt"⟩

/-- A simulator may read the results of other pairs. Which pairs succeed depends on the order of
work then, and yet the batch has its effect. -/
theorem ofSchedule_effect_following :
    let batch := BatchRun.ofSchedule following ⟨"r"⟩ twoScenarios twoJobs [⟨1⟩]
    let left := (Work.start twoScenarios).run following ⟨"r"⟩
    ((batch (inTurn twoJobs)).succeeded = [⟨⟨0⟩, ⟨0⟩⟩, ⟨⟨0⟩, ⟨1⟩⟩] ∧
      (batch (inTurn twoJobs)).failed = [] ∧
      (batch (inTurn twoJobs)).Effect following ⟨"l"⟩ ⟨"r"⟩ twoScenarios
        (left (inTurn twoJobs)).disk) ∧
    (batch (twoJobs ++ twoJobs ++ twoJobs)).succeeded = [⟨⟨0⟩, ⟨0⟩⟩] ∧
      (batch (twoJobs ++ twoJobs ++ twoJobs)).failed = [(⟨⟨0⟩, ⟨1⟩⟩, .io .notFound)] ∧
      (batch (twoJobs ++ twoJobs ++ twoJobs)).Effect following ⟨"l"⟩ ⟨"r"⟩ twoScenarios
        (left (twoJobs ++ twoJobs ++ twoJobs)).disk := by
  intro batch left
  have heffect : ∀ schedule : List Job, (∀ job ∈ schedule, job ∈ twoJobs) →
      (∀ job ∈ twoJobs, 3 ≤ schedule.count job) →
        (batch schedule).Effect following ⟨"l"⟩ ⟨"r"⟩ twoScenarios (left schedule).disk := by
    have hcurrent : twoScenarios.at? twoScenarios.current = some .directory := rfl
    have hprepared : Disk.prepareOutput ⟨"r"⟩ true twoScenarios = (.ok (), twoScenarios) :=
      Disk.prepareOutput_of_isDirectory (by decide +kernel)
    have hfiles : ∀ job ∈ twoJobs, job.output.text.utf8ByteSize ≤ Disk.maxPathBytes ∧
        twoScenarios.isDirectory (job.result ⟨"r"⟩) = false ∧
          twoScenarios.isDirectory job.output = false := by decide +kernel
    intro schedule hschedule hcount
    have h := @BatchRun.ofSchedule_effect following ⟨"r"⟩ ["l"] twoScenarios ⟨"l"⟩ true
      twoScenarios hcurrent hprepared [⟨1⟩]
    rw [jobsAt_twoScenarios] at h
    refine h (fun job hjob => ?_) (fun job hjob => (hfiles job hjob).1)
      (fun job hjob => (hfiles job hjob).2) hschedule hcount
    rw [← jobsAt_twoScenarios] at hjob
    rw [(mem_jobsAt.mp hjob).2.2]
    exact keepsTo_copyingFrom _ (PairId.inDirectory_jobIn _ _ _)
  refine ⟨⟨by decide +kernel, by decide +kernel, heffect _ (fun _ => mem_inTurn.mp)
    fun _ => three_le_count_inTurn⟩, by decide +kernel, by decide +kernel,
    heffect _ (by simp) (by decide +kernel)⟩

/-- The job of the only pair. -/
def onlyJob (results : Path) : Job := (⟨⟨0⟩, ⟨0⟩⟩ : PairId).jobIn ⟨"l"⟩ results

theorem keepsTo_onlyJob {batch : BatchRun} (h : batch.runs.map PairRun.job = [onlyJob results])
    {run : PairRun} (hrun : run ∈ batch.runs) :
    run.job = onlyJob results ∧ copying.KeepsTo run.job := by
  have hjob : run.job = onlyJob results := by
    have hmem := List.mem_map_of_mem (f := PairRun.job) hrun
    rw [h] at hmem
    exact List.mem_singleton.mp hmem
  rw [hjob]
  exact ⟨rfl, keepsTo_copying (PairId.inDirectory_jobIn _ _ results)⟩

/-- A disk with a pair to simulate, a result and a partial file of an earlier batch. -/
def usedDisk : Disk := onePair [(["0_0.txt", "r"], .file "old".toUTF8 false),
  ([".0_0.txt.partial", "r"], .file "older".toUTF8 false)]

theorem runAll_effect_usedDisk :
    runAll copying ⟨"x"⟩ ⟨"r"⟩ true usedDisk = (.error (.io .notFound), usedDisk) ∧
    runAll copying ⟨"l"⟩ ⟨"l/flows__0.dat"⟩ true usedDisk =
      (.error (.output (.notADirectory ⟨"l/flows__0.dat"⟩)), usedDisk) ∧
    runAll copying ⟨"l"⟩ ⟨"r"⟩ false usedDisk = (.error (.output (.exists ⟨"r"⟩)), usedDisk) ∧
    ∃ batch after, runAll copying ⟨"l"⟩ ⟨"r"⟩ true usedDisk = (.ok batch, after) ∧
      batch.succeeded = [⟨⟨0⟩, ⟨0⟩⟩] ∧ batch.Effect copying ⟨"l"⟩ ⟨"r"⟩ usedDisk after := by
  have hlist : ∃ entries, usedDisk.list ⟨"l"⟩ = .ok entries := by
    have hfind : (usedDisk.find ⟨"l"⟩).toOption = some (["l"], .directory) := by decide +kernel
    refine ⟨_, Disk.list_eq_ok.mpr ⟨["l"], ?_, rfl⟩⟩
    cases h : usedDisk.find ⟨"l"⟩ <;> simp_all [Except.toOption]
  obtain ⟨entries, hlist⟩ := hlist
  refine ⟨?_, ?_, ?_, ?_⟩
  · refine (runAll_effect copying ⟨"x"⟩ ⟨"r"⟩ true usedDisk).1 .notFound ?_
    have hvacant : usedDisk.locate ⟨"x"⟩ = .ok ["x"] ∧ usedDisk.at? ["x"] = none := by
      decide +kernel
    rw [Disk.list, Disk.Vacant.find_eq ⟨_, hvacant⟩]
    rfl
  · exact ((runAll_effect copying ⟨"l"⟩ ⟨"l/flows__0.dat"⟩ true usedDisk).2.1 _ hlist).1
      (by decide +kernel) (by decide +kernel)
  · exact ((runAll_effect copying ⟨"l"⟩ ⟨"r"⟩ false usedDisk).2.1 _ hlist).2
      (by decide +kernel) rfl
  · have hresults : Disk.prepareOutput ⟨"r"⟩ true usedDisk = (.ok (), usedDisk) :=
      Disk.prepareOutput_of_isDirectory (by decide +kernel)
    have hbatch : (runAll copying ⟨"l"⟩ ⟨"r"⟩ true usedDisk).1.toOption.map
        (fun batch => (batch.runs.map PairRun.job, batch.succeeded)) =
          some ([onlyJob ⟨"r"⟩], [⟨⟨0⟩, ⟨0⟩⟩]) := by decide +kernel
    have hfiles : (onlyJob ⟨"r"⟩).output.text.utf8ByteSize ≤ Disk.maxPathBytes ∧
        usedDisk.isDirectory ((onlyJob ⟨"r"⟩).result ⟨"r"⟩) = false ∧
          usedDisk.isDirectory (onlyJob ⟨"r"⟩).output = false := by decide +kernel
    rcases hrun : runAll copying ⟨"l"⟩ ⟨"r"⟩ true usedDisk with ⟨fault | batch, after⟩
    · simp [hrun, Except.toOption] at hbatch
    · simp only [hrun, Except.toOption, Option.map_some, Option.some.injEq, Prod.mk.injEq] at hbatch
      have hjob := fun run hmem => @keepsTo_onlyJob ⟨"r"⟩ batch hbatch.1 run hmem
      refine ⟨batch, after, rfl, hbatch.2, (runAll_effect copying ⟨"l"⟩ ⟨"r"⟩ true usedDisk).2.2
        batch usedDisk after rfl hresults hrun (fun run hmem => (hjob run hmem).2)
          (fun run hmem => ?_) fun run hmem => ?_⟩
      · rw [(hjob run hmem).1]
        exact hfiles.1
      · rw [(hjob run hmem).1]
        exact hfiles.2

/-- The path of the output directory may make a directory in the place of a result. Then a pair
fails before its simulator is called, and not because of it. -/
theorem runAll_through_result : ∃ batch after,
    runAll copying ⟨"l"⟩ ⟨"y/0_0.txt/.."⟩ false (onePair []) = (.ok batch, after) ∧
      (onePair []).at? ["0_0.txt", "y"] = none ∧ (onePair []).at? [".0_0.txt.partial", "y"] = none ∧
      (∀ run ∈ batch.runs, copying.KeepsTo run.job ∧
        run.job.output.text.utf8ByteSize ≤ Disk.maxPathBytes) ∧
      batch.failed = [(⟨⟨0⟩, ⟨0⟩⟩, .io .isADirectory)] ∧ batch.calls = [] ∧
      after.at? ["0_0.txt", "y"] = some .directory := by
  have hbatch : (runAll copying ⟨"l"⟩ ⟨"y/0_0.txt/.."⟩ false (onePair [])).1.toOption.map
      (fun batch => (batch.runs.map PairRun.job, batch.failed, batch.calls.map Prod.fst)) =
        some ([onlyJob ⟨"y/0_0.txt/.."⟩], [(⟨⟨0⟩, ⟨0⟩⟩, .io .isADirectory)], []) := by
    decide +kernel
  have hafter : (runAll copying ⟨"l"⟩ ⟨"y/0_0.txt/.."⟩ false (onePair [])).2.at? ["0_0.txt", "y"] =
      some .directory := by decide +kernel
  rcases hrun : runAll copying ⟨"l"⟩ ⟨"y/0_0.txt/.."⟩ false (onePair []) with ⟨fault | batch, after⟩
  · simp [hrun, Except.toOption] at hbatch
  · simp only [hrun, Except.toOption, Option.map_some, Option.some.injEq, Prod.mk.injEq] at hbatch
    rw [hrun] at hafter
    refine ⟨batch, after, rfl, by decide +kernel, by decide +kernel, fun run hmem => ?_, hbatch.2.1,
      List.map_eq_nil_iff.mp hbatch.2.2, hafter⟩
    obtain ⟨hjob, hsim⟩ := keepsTo_onlyJob hbatch.1 hmem
    refine ⟨hsim, ?_⟩
    rw [hjob]
    decide +kernel

/-! ## Paths that are too long -/

/-- A pair whose result has a path that is not followed fails before its simulator is called. -/
theorem Turn.eq_of_textFault {run : PairRun} {fault : IoError}
    (h : Turn simulator results d job run e)
    (hfault : (job.result results).textFault? = some fault) (hne : fault ≠ .notFound) :
    run = ⟨job, none, .error (.io fault)⟩ ∧ e = d := by
  have hrefused : Disk.removeIfPresent (job.result results) d = (.error fault, d) := by
    have hfind : d.find (job.result results) = .error fault := by
      simp [Disk.find, Disk.resolve, Disk.locate_eq, hfault, bind, Except.bind]
    unfold Disk.removeIfPresent Disk.removeFile
    cases fault <;> simp_all [bind, Except.bind]
  cases h with
  | refused hclear =>
    rw [hrefused] at hclear
    cases hclear
    exact ⟨rfl, rfl⟩
  | called hclear hcall hsettle =>
    rw [hrefused] at hclear
    cases hclear

/-- A path to the directory `r`, with slashes at its end. -/
def slashedPath (n : Nat) : Path := ⟨"r" ++ String.ofList (List.replicate n '/')⟩

theorem toList_slashedPath (n : Nat) :
    (slashedPath n).text.toList = 'r' :: List.replicate n '/' := by
  simp [slashedPath]

theorem no_null_slashedPath (n : Nat) : '\x00' ∉ (slashedPath n).text.toList := by
  rw [toList_slashedPath]
  simp

theorem utf8ByteSize_slashedPath (n : Nat) : (slashedPath n).text.utf8ByteSize = 1 + n := by
  rw [slashedPath, String.utf8ByteSize_append, utf8ByteSize_slashes]
  rfl

theorem isDirectory_slashedPath {n : Nat} (hsize : n < Disk.maxPathBytes) :
    (onePair []).isDirectory (slashedPath n) = true := by
  have htext : (slashedPath n).textFault? = none := by
    have hne : (slashedPath n).text ≠ "" := by simp [slashedPath]
    have hshort : ¬ Disk.maxPathBytes < (slashedPath n).text.utf8ByteSize := by
      rw [utf8ByteSize_slashedPath]
      omega
    simp [Path.textFault?, hne, no_null_slashedPath n, hshort]
  have hsteps : (slashedPath n).steps = [.down "r"] :=
    (Path.steps_append_slashes "r" n).trans (by decide +kernel)
  have hstart : (onePair []).start (slashedPath n) = [] := by
    rw [Disk.start, Path.isAbsolute, toList_slashedPath]
    rfl
  refine Disk.isDirectory_iff.mpr ⟨["r"], Disk.locate_eq_ok.mpr ⟨htext, ?_⟩, by decide +kernel⟩
  rw [hsteps, hstart]
  rfl

theorem textFault?_slashedPath {n : Nat} {name : String} (hname : IsEntryName name)
    (hlong : Disk.maxPathBytes < 1 + n + name.utf8ByteSize) :
    ((slashedPath n).join name).textFault? = some .nameTooLong := by
  refine Path.textFault?_join_of_long hname (no_null_slashedPath n) ?_
  have hsize := utf8ByteSize_slashedPath n
  rw [Path.join, if_neg hname.head?_ne_slash]
  split_ifs
  all_goals
    simp only [String.utf8ByteSize_append]
    omega

theorem jobsAt_onePair (results : Path) :
    (onePair []).jobsAt ["l"] ⟨"l"⟩ results = [onlyJob results] := by
  have hflow : (onePair []).flowLogsAt ["l"] ⟨"l"⟩ = [(⟨0⟩, ⟨"l/flows__0.dat"⟩)] := by
    decide +kernel
  have hallocation : (onePair []).allocationLogsAt ["l"] ⟨"l"⟩ =
      [(⟨⟨0⟩, ⟨0⟩⟩, ⟨"l/alloc__0_0.dat"⟩)] := by decide +kernel
  have hjob : onlyJob results =
      (⟨⟨0⟩, ⟨0⟩⟩ : PairId).job ⟨"l/flows__0.dat"⟩ ⟨"l/alloc__0_0.dat"⟩ results := by
    have hpaths : (⟨"l"⟩ : Path).join (⟨0⟩ : ScenarioId).flowLogName = ⟨"l/flows__0.dat"⟩ ∧
        (⟨"l"⟩ : Path).join (⟨⟨0⟩, ⟨0⟩⟩ : PairId).allocationLogName = ⟨"l/alloc__0_0.dat"⟩ := by
      decide +kernel
    rw [onlyJob, PairId.jobIn, hpaths.1, hpaths.2]
  rw [Disk.jobsAt, hflow, hallocation, hjob]
  rfl

theorem runAll_slashedPath {n : Nat} (hsize : n < Disk.maxPathBytes)
    (hlong : ∀ name ∈ (⟨⟨0⟩, ⟨0⟩⟩ : PairId).workNames,
      Disk.maxPathBytes < 1 + n + name.utf8ByteSize) : ∃ batch after,
    runAll copying ⟨"l"⟩ (slashedPath n) true (onePair []) = (.ok batch, after) ∧
      Disk.prepareOutput (slashedPath n) true (onePair []) = (.ok (), onePair []) ∧
      (∀ run ∈ batch.runs, copying.KeepsTo run.job ∧
        (onePair []).isDirectory (run.job.result (slashedPath n)) = false ∧
        (onePair []).isDirectory run.job.output = false) ∧
      batch.failed = [(⟨⟨0⟩, ⟨0⟩⟩, .io .nameTooLong)] ∧ batch.calls = [] := by
  have hlogs : (onePair []).find ⟨"l"⟩ = .ok (["l"], .directory) :=
    toOption_eq_some_iff.mp (by decide +kernel)
  have hprepared : Disk.prepareOutput (slashedPath n) true (onePair []) = (.ok (), onePair []) :=
    Disk.prepareOutput_of_isDirectory (isDirectory_slashedPath hsize)
  have hfault : ∀ name ∈ (⟨⟨0⟩, ⟨0⟩⟩ : PairId).workNames,
      ((slashedPath n).join name).textFault? = some .nameTooLong := fun name hname =>
    textFault?_slashedPath (PairId.isEntryName_of_mem_workNames hname) (hlong name hname)
  have hfile : ∀ name ∈ (⟨⟨0⟩, ⟨0⟩⟩ : PairId).workNames,
      (onePair []).isDirectory ((slashedPath n).join name) = false := by
    intro name hname
    rw [Bool.eq_false_iff]
    intro hdirectory
    obtain ⟨place, hlocate, -⟩ := Disk.isDirectory_iff.mp hdirectory
    rw [Disk.locate_eq, hfault name hname] at hlocate
    cases hlocate
  obtain ⟨runs, after, hrun, hjobs, hturns⟩ := @turns_mapM copying (slashedPath n)
    ((onePair []).jobsAt ["l"] ⟨"l"⟩ (slashedPath n)) (onePair [])
  have hbatch := runAll_eq hlogs hprepared hrun
  rw [jobsAt_onePair] at hjobs
  obtain ⟨run, rfl, hjob⟩ := List.map_eq_singleton_iff.mp hjobs
  obtain ⟨before, hturn⟩ : ∃ before,
      Turn copying (slashedPath n) (onePair []) (onlyJob (slashedPath n)) run before := by
    cases hturns with
    | cons hturn hrest => exact ⟨_, hjob ▸ hturn⟩
  obtain ⟨rfl, -⟩ := hturn.eq_of_textFault (hfault _ (resultName_mem _)) nofun
  refine ⟨_, after, hbatch, hprepared, fun run hmem => ?_, rfl, rfl⟩
  obtain rfl := List.mem_singleton.mp hmem
  exact ⟨keepsTo_copying (PairId.inDirectory_jobIn _ _ _), hfile _ (resultName_mem _),
    hfile _ (partialName_mem _)⟩

/-- The path of the output directory may be so long that a result has no path that can be used. Then
a pair fails before its simulator is called, and not because of it, although no directory is in the
way. -/
theorem runAll_beyond_maxPathBytes : ∃ batch after,
    runAll copying ⟨"l"⟩ (slashedPath 4088) true (onePair []) = (.ok batch, after) ∧
      Disk.prepareOutput (slashedPath 4088) true (onePair []) = (.ok (), onePair []) ∧
      (∀ run ∈ batch.runs, copying.KeepsTo run.job ∧
        (onePair []).isDirectory (run.job.result (slashedPath 4088)) = false ∧
        (onePair []).isDirectory run.job.output = false) ∧
      batch.failed = [(⟨⟨0⟩, ⟨0⟩⟩, .io .nameTooLong)] ∧ batch.calls = [] :=
  runAll_slashedPath (by decide) (by decide +kernel)

end RackTraffic
