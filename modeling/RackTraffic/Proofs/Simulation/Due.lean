import RackTraffic.Proofs.Disk.Made
import RackTraffic.Proofs.Simulation.Published
import RackTraffic.Proofs.Simulation.Schedule

/-!
# What the steps of a job do to its files

Each step of a job leaves the files of its pair as they are due (`Progress.Due.advance`): there is
no result from the first step on until the job's own output becomes the result, and when the run has
ended, no output is left in its place. This needs a simulator that keeps to the output and the
console file of the job (`Simulator.KeepsTo`). What it reads does not matter.

A step can go like this if the files of the job can be right in the output directory and none of
them is a directory (`Job.Ready`). The steps of other jobs keep it so, because they concern no
directories and no files of the job. Hence the files are as they are due after every schedule
(`Work.due_run`).
-/

namespace RackTraffic

variable {simulator : Simulator} {results : Path} {place q : Place} {d e : Disk} {job : Job}

/-! ## Jobs that can take steps -/

/-- A simulator that keeps to the output and the console file of a job. It neither makes nor removes
directories, and if it succeeds, the output is there. -/
structure Simulator.KeepsTo (simulator : Simulator) (job : Job) : Prop where
  directories : ∀ d : Disk, d.SameDirectories (simulator job d).2
  writes : ∀ (d : Disk) (place : Place),
    (∀ path ∈ [job.output, job.console], d.locate path ≠ .ok place) →
      d.at? place = (simulator job d).2.at? place
  output : ∀ d left : Disk, simulator job d = (.ok (), left) → left.isFile job.output = true

/-- The paths of the result and of the output of a job lead right into the directory at a place, and
they do not lead to directories. -/
structure Job.Ready (results : Path) (place : Place) (d : Disk) (job : Job) : Prop
    extends job.InDirectory results where
  destination_eq : d.destination results = place
  result : d.locate (job.result results) = .ok (job.id.resultName :: place)
  output : d.locate job.output = .ok (job.id.partialName :: place)
  result_file : d.at? (job.id.resultName :: place) ≠ some .directory
  output_file : d.at? (job.id.partialName :: place) ≠ some .directory

/-- The turn of a job can still come after others that concern no directories. -/
theorem Job.Ready.congr (h : job.Ready results place d) (hsame : d.SameDirectories e) :
    job.Ready results place e where
  toInDirectory := h.toInDirectory
  destination_eq := (hsame.destination_eq results).trans h.destination_eq
  result := hsame.locate_ok h.result
  output := hsame.locate_ok h.output
  result_file := mt (hsame.directory _).mpr h.result_file
  output_file := mt (hsame.directory _).mpr h.output_file

theorem Job.Ready.endsInSlash_result (job : Job) : (job.result results).endsInSlash = false :=
  Path.endsInSlash_join job.id.isEntryName_resultName

theorem Job.Ready.endsInSlash_output (h : job.Ready results place d) :
    job.output.endsInSlash = false := by
  rw [h.output_eq]
  exact Path.endsInSlash_join job.id.isEntryName_partialName

/-- A simulator changes nothing but the output and the console file of the job. -/
theorem Job.Ready.at?_simulator (h : job.Ready results place d) (hsim : simulator.KeepsTo job)
    (houtput : q ≠ job.id.partialName :: place) (hconsole : q ≠ job.id.consoleName :: place) :
    (simulator job d).2.at? q = d.at? q := by
  refine (hsim.writes d q fun path hpath hlocate => ?_).symm
  simp only [List.mem_cons, List.not_mem_nil, or_false] at hpath
  rcases hpath with rfl | rfl
  · rw [h.output] at hlocate
    cases hlocate
    exact houtput rfl
  · rw [h.console_eq] at hlocate
    have hplace := Disk.locate_join_eq job.id.isEntryName_consoleName hlocate
    exact hconsole (hplace.trans (congrArg _ h.destination_eq))

/-! ## What a turn does -/

/-- What has become of the files of a pair that has had its turn. -/
structure PairRun.Effect (simulator : Simulator) (place : Place) (run : PairRun) (after : Disk) :
    Prop where
  /-- The outcome is that of the simulator. After a success, what it has left is the result. -/
  called : ∃ given left, run.given = some given ∧ simulator run.job given = (run.outcome, left) ∧
    (run.outcome = .ok () → ∃ contents executable, left.read run.job.output = .ok contents ∧
      after.at? (run.job.id.resultName :: place) = some (.file contents executable))
  failed : ∀ fault, run.outcome = .error fault → after.at? (run.job.id.resultName :: place) = none
  output : after.at? (run.job.id.partialName :: place) = none

/-- The effect is that on the result and the output alone. -/
theorem PairRun.Effect.congr {run : PairRun} (h : run.Effect simulator place d)
    (hsame : ∀ name ∈ run.job.id.workNames, e.at? (name :: place) = d.at? (name :: place)) :
    run.Effect simulator place e := by
  have hresult := hsame _ (resultName_mem run.job.id)
  refine ⟨?_, fun fault hfault => hresult.trans (h.failed fault hfault),
    (hsame _ (partialName_mem run.job.id)).trans h.output⟩
  rw [hresult]
  exact h.called

/-- Nothing has changed but files with given names in a directory. -/
structure Disk.ChangedIn (place : Place) (names : List String) (d e : Disk) : Prop where
  directories : d.SameDirectories e
  at?_eq : ∀ q, (∀ name ∈ names, q ≠ name :: place) → e.at? q = d.at? q

namespace Disk

variable {names : List String} {name : String}

theorem ChangedIn.refl (place : Place) (names : List String) (d : Disk) :
    d.ChangedIn place names d := ⟨.refl d, fun _ _ => rfl⟩

theorem ChangedIn.trans {f : Disk} (h : d.ChangedIn place names e)
    (h' : e.ChangedIn place names f) :
    d.ChangedIn place names f :=
  ⟨h.directories.trans h'.directories, fun q hq => (h'.at?_eq q hq).trans (h.at?_eq q hq)⟩

theorem changedIn_take (hname : name ∈ names) (hfile : d.at? (name :: place) ≠ some .directory) :
    d.ChangedIn place names (d.take (name :: place)) := by
  refine ⟨sameDirectories_take hfile, fun q hq => ?_⟩
  rw [at?_take _ _ _ (List.cons_ne_nil _ _), if_neg (hq name hname).symm]

theorem changedIn_put (hname : name ∈ names) (hfile : d.at? (name :: place) ≠ some .directory)
    (contents : ByteArray) (executable : Bool) :
    d.ChangedIn place names (d.put (name :: place) (.file contents executable)) := by
  refine ⟨sameDirectories_put hfile (by simp), fun q hq => ?_⟩
  rw [at?_put _ _ _ _ (List.cons_ne_nil _ _), if_neg (hq name hname).symm]

end Disk

namespace Job.Ready

/-- The old result is removed. -/
theorem removeIfPresent_result (h : job.Ready results place d) :
    Disk.removeIfPresent (job.result results) d = (.ok (), d.take (job.id.resultName :: place)) :=
  Disk.removeIfPresent_of_locate (Job.Ready.endsInSlash_result job) h.result h.result_file

theorem changedIn_take_result (h : job.Ready results place d) :
    d.ChangedIn place job.id.workNames (d.take (job.id.resultName :: place)) :=
  Disk.changedIn_take (resultName_mem job.id) h.result_file

theorem changedIn_simulator (h : job.Ready results place d) (hsim : simulator.KeepsTo job) :
    d.ChangedIn place job.id.workNames (simulator job d).2 :=
  ⟨hsim.directories d, fun _ hq =>
    h.at?_simulator hsim (hq _ (partialName_mem job.id)) (hq _ (consoleName_mem job.id))⟩

/-- No simulator makes the result. -/
theorem at?_result_simulator (h : job.Ready results place d) (hsim : simulator.KeepsTo job) :
    (simulator job d).2.at? (job.id.resultName :: place) = d.at? (job.id.resultName :: place) :=
  h.at?_simulator hsim (fun heq => job.id.resultName_ne_partialName (List.cons.inj heq).1)
    fun heq => job.id.resultName_ne_consoleName (List.cons.inj heq).1

/-- After a failure, the output is removed. -/
theorem settle_error (h : job.Ready results place d) (fault : SimulationFault) :
    job.settle results (.error fault) d =
      (.error fault, d.take (job.id.partialName :: place)) := by
  rw [Job.settle, DiskAction.bind_apply, DiskAction.mapFailure,
    Disk.removeIfPresent_of_locate h.endsInSlash_output h.output h.output_file]
  rfl

/-- After a success, the output becomes the result. -/
theorem settle_ok (h : job.Ready results place d) {contents : ByteArray} {executable : Bool}
    (hentry : d.at? (job.id.partialName :: place) = some (.file contents executable)) :
    job.settle results (.ok ()) d = (.ok (), (d.take (job.id.partialName :: place)).put
      (job.id.resultName :: place) (.file contents executable)) := by
  have hne : job.id.partialName :: place ≠ job.id.resultName :: place := fun heq =>
    job.id.resultName_ne_partialName (List.cons.inj heq).1.symm
  exact settle_eq_ok.mpr (Disk.rename_of_locate h.endsInSlash_output
    (Job.Ready.endsInSlash_result job) (Path.endsInName_join job.id.isEntryName_resultName)
    h.output hentry h.result h.result_file hne)

/-- A simulator that succeeds has left a file as its output. -/
theorem exists_output (h : job.Ready results place e) (hsim : simulator.KeepsTo job)
    (hcall : simulator job d = (.ok (), e)) : ∃ contents executable,
    e.find job.output = .ok (job.id.partialName :: place, .file contents executable) := by
  obtain ⟨r, contents, executable, hfind⟩ := Disk.isFile_iff.mp (hsim.output _ _ hcall)
  obtain rfl : job.id.partialName :: place = r := Except.ok.inj
    (h.output.symm.trans (Disk.locate_of_resolve (Disk.find_eq_ok.mp hfind).1))
  exact ⟨contents, executable, hfind⟩

end Job.Ready

/-- What has become of the files of a pair, for every progress of its run, where `given` is the disk
that its simulator has been given. -/
def Progress.Due (simulator : Simulator) (place : Place) (job : Job) (given : Option Disk)
    (d : Disk) : Progress → Prop
  | .waiting => given = none
  | .cleared => given = none ∧ d.at? (job.id.resultName :: place) = none
  | .simulated made left => d.at? (job.id.resultName :: place) = none ∧
      ∃ disk e, given = some disk ∧ simulator job disk = (made, e) ∧ e.read job.output = left ∧
        (made = .ok () → ∃ contents executable, left = .ok contents ∧
          d.at? (job.id.partialName :: place) = some (.file contents executable))
  | .published _ => PairRun.Effect simulator place ⟨job, given, .ok ()⟩ d
  | .failed fault => PairRun.Effect simulator place ⟨job, given, .error fault⟩ d

namespace Progress.Due

variable {p : Progress} {given : Option Disk}

/-- What has become of the files of a pair is seen in these. -/
theorem congr (h : p.Due simulator place job given d)
    (hsame : ∀ name ∈ job.id.workNames, e.at? (name :: place) = d.at? (name :: place)) :
    p.Due simulator place job given e := by
  have hresult := hsame _ (resultName_mem job.id)
  have houtput := hsame _ (partialName_mem job.id)
  cases p with
  | waiting => exact h
  | cleared => exact ⟨h.1, hresult.trans h.2⟩
  | simulated made left =>
    refine ⟨hresult.trans h.1, ?_⟩
    rw [houtput]
    exact h.2
  | published left => exact PairRun.Effect.congr h hsame
  | failed fault => exact PairRun.Effect.congr h hsame

/-- The outcome of a run that has ended is that of its simulator. -/
theorem effect (h : p.Due simulator place job given d) {outcome : Except SimulationFault Unit}
    (houtcome : p.outcome? = some outcome) :
    PairRun.Effect simulator place ⟨job, given, outcome⟩ d := by
  cases p with
  | published left =>
    cases houtcome
    exact h
  | failed fault =>
    cases houtcome
    exact h
  | _ => cases houtcome

section

variable (hready : job.Ready results place d)
include hready

theorem clear (h : Progress.waiting.Due simulator place job given d) :
    (job.advance simulator results d .waiting).1.Due simulator place job given
        (job.advance simulator results d .waiting).2 ∧
      d.ChangedIn place job.id.workNames (job.advance simulator results d .waiting).2 := by
  rw [Job.advance_waiting, clear_eq hready.removeIfPresent_result]
  refine ⟨⟨h, ?_⟩, hready.changedIn_take_result⟩
  rw [Disk.at?_take _ _ _ (List.cons_ne_nil _ _), if_pos rfl]

theorem simulate (hsim : simulator.KeepsTo job)
    (h : Progress.cleared.Due simulator place job given d) :
    (job.advance simulator results d .cleared).1.Due simulator place job (some d)
        (job.advance simulator results d .cleared).2 ∧
      d.ChangedIn place job.id.workNames (job.advance simulator results d .cleared).2 := by
  have hleft := hready.changedIn_simulator hsim
  have hresult := (hready.at?_result_simulator hsim).trans h.2
  obtain ⟨made, e, hcall⟩ : ∃ made e, simulator job d = (made, e) := ⟨_, _, rfl⟩
  rw [Job.advance_cleared]
  rw [hcall] at hleft hresult ⊢
  refine ⟨⟨hresult, d, e, rfl, hcall, rfl, ?_⟩, hleft⟩
  rintro rfl
  obtain ⟨contents, executable, hfind⟩ :=
    (hready.congr hleft.directories).exists_output hsim hcall
  exact ⟨contents, executable, Disk.read_eq_ok.mpr ⟨_, executable, hfind⟩,
    (Disk.find_eq_ok.mp hfind).2⟩

theorem settle {made : Except SimulationFault Unit} {left : Except IoError ByteArray}
    (h : (Progress.simulated made left).Due simulator place job given d) :
    (job.advance simulator results d (.simulated made left)).1.Due simulator place job given
        (job.advance simulator results d (.simulated made left)).2 ∧
      d.ChangedIn place job.id.workNames
        (job.advance simulator results d (.simulated made left)).2 := by
  have hresult : job.id.resultName :: place ≠ [] := List.cons_ne_nil _ _
  have houtput : job.id.partialName :: place ≠ [] := List.cons_ne_nil _ _
  have hne : job.id.partialName :: place ≠ job.id.resultName :: place := fun heq =>
    job.id.resultName_ne_partialName (List.cons.inj heq).1.symm
  have hcleaned := Disk.changedIn_take (partialName_mem job.id) hready.output_file
  obtain ⟨hnone, disk, e, rfl, hcall, rfl, hwritten⟩ := h
  rw [Job.advance_simulated]
  cases made with
  | ok u =>
    obtain ⟨contents, executable, hread, hentry⟩ := hwritten rfl
    rw [hready.settle_ok hentry]
    refine ⟨⟨⟨disk, e, rfl, hcall, fun _ => ⟨contents, executable, hread, ?_⟩⟩, nofun, ?_⟩,
      hcleaned.trans ?_⟩
    · rw [Disk.at?_put _ _ _ _ hresult, if_pos rfl]
    · rw [Disk.at?_put _ _ _ _ hresult, if_neg hne.symm, Disk.at?_take _ _ _ houtput, if_pos rfl]
    · exact Disk.changedIn_put (resultName_mem job.id)
        (hready.congr hcleaned.directories).result_file _ _
  | error fault =>
    rw [hready.settle_error]
    refine ⟨⟨⟨disk, e, rfl, hcall, nofun⟩, fun _ _ => ?_, ?_⟩, hcleaned⟩
    · rw [Disk.at?_take _ _ _ houtput, if_neg hne, hnone]
    · rw [Disk.at?_take _ _ _ houtput, if_pos rfl]

/-- **The effect of a step.** Nothing but the files of the pair has changed. -/
theorem advance (hsim : simulator.KeepsTo job) (h : p.Due simulator place job given d) :
    (job.advance simulator results d p).1.Due simulator place job (given.or (p.given? d))
        (job.advance simulator results d p).2 ∧
      d.ChangedIn place job.id.workNames (job.advance simulator results d p).2 := by
  have hstays : given.or none = given := Option.or_none
  cases p with
  | waiting => exact hstays.symm ▸ clear hready h
  | cleared =>
    obtain rfl : given = none := h.1
    exact simulate hready hsim h
  | simulated made left => exact hstays.symm ▸ settle hready h
  | published left => exact ⟨hstays.symm ▸ h, .refl _ _ d⟩
  | failed fault => exact ⟨hstays.symm ▸ h, .refl _ _ d⟩

end

end Progress.Due

/-- The names of the files of the pairs that are run. -/
def workNamesOf (runs : List PairRun) : List String := runs.flatMap fun run => run.job.id.workNames

/-- **The effect of a schedule.** The files of each pair are as the steps of its own job have left
them, because other jobs have files of their own. -/
theorem Work.due_run {jobs schedule : List Job}
    (hdistinct : ∀ i ∈ jobs, ∀ j ∈ jobs, i.id = j.id → i = j)
    (hready : ∀ job ∈ jobs, job.Ready results place d) (hsim : ∀ job ∈ jobs, simulator.KeepsTo job)
    (hschedule : ∀ job ∈ schedule, job ∈ jobs) :
    (∀ job ∈ jobs, (((start d).run simulator results schedule).progress job).Due simulator place job
      (((start d).calls simulator results schedule).lookup job)
      ((start d).run simulator results schedule).disk) ∧
    d.ChangedIn place (jobs.flatMap fun job => job.id.workNames)
      ((start d).run simulator results schedule).disk := by
  induction schedule using List.reverseRecOn with
  | nil => exact ⟨fun job _ => rfl, .refl _ _ d⟩
  | append_singleton schedule job ih =>
    obtain ⟨hdue, hchanged⟩ := ih fun other hmem => hschedule other (by simp [hmem])
    have hjob := hschedule job (by simp)
    obtain ⟨hstep, hchangedStep⟩ :=
      (hdue job hjob).advance ((hready job hjob).congr hchanged.directories) (hsim job hjob)
    rw [run_concat]
    refine ⟨fun other hother => ?_, hchanged.directories.trans hchangedStep.directories,
      fun q hq => ?_⟩
    · by_cases heq : other = job
      · subst heq
        rw [step_progress_self, lookup_calls_concat_self]
        exact hstep
      · rw [step_progress_of_ne heq, lookup_calls_concat_of_ne heq]
        refine (hdue other hother).congr fun name hname => hchangedStep.at?_eq _ ?_
        intro name' hname' hplace
        obtain ⟨rfl, -⟩ := List.cons.inj hplace
        exact heq (hdistinct other hother job hjob (PairId.eq_of_mem_workNames hname hname'))
    · refine (hchangedStep.at?_eq q fun name hname => hq name ?_).trans (hchanged.at?_eq q hq)
      exact List.mem_flatMap.mpr ⟨job, hjob, hname⟩

end RackTraffic
