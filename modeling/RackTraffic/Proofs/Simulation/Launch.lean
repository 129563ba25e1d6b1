import RackTraffic.Proofs.Disk.Canonical
import RackTraffic.Proofs.Simulation.Batch
import RackTraffic.Proofs.Simulation.Current
import RackTraffic.Proofs.Simulation.Published

/-!
# Results of simulator programs

**Theorem (`runAll_verdicts`).** In a batch whose simulator is a program, a pair succeeds only if
the program that was started for it has exited well and left a file as its output. If there was
nothing in the place of the output when the turn of the pair came, the program must have made this
file: one that exits well and makes none fails for want of an output, and leaves no trace of a
result.

Nothing removes an output before the program is started, though. A file that is there when the turn
comes, such as a batch leaves that is killed, is taken for what the program has made
(`runAll_publishes_leftover`).

The program is told the path of its output from the root, and the batch renames the output by the
path that was written. Both lead to the same place (`SimulatorProgram.Runs.place_eq`), so what is
published is what the program has left.
-/

namespace RackTraffic

variable {p : SimulatorProgram} {host : Host} {logs results : Path} {id : PairId}
  {job full : Job} {before given started left after d e : Disk} {ending : Ending} {place : Place}

/-! ## Runs of the program -/

namespace SimulatorProgram

/-- The program has been run for a job to its end. -/
structure Runs (p : SimulatorProgram) (host : Host) (job : Job) (given : Disk) (full : Job)
    (started : Disk) (ending : Ending) (left : Disk) : Prop where
  /-- The program is told the paths from the root. -/
  absolute_eq : job.absolute given = .ok full
  /-- It starts when the console file has been made. -/
  write_eq : given.write full.console .empty = .ok started
  host_eq : ∃ home command, given.canonical p.home = .ok home ∧
    p.command home (p.arguments full) = .ok command ∧
      host command full.console p.timeLimit started = (.ok ending, left)

/-- The end of the program decides. -/
theorem Runs.simulate_eq (h : p.Runs host job given full started ending left) :
    p.simulate host job given = (judge full left ending, left) := by
  obtain ⟨home, command, hhome, hcommand, hhost⟩ := h.host_eq
  simp [simulate, DiskAction.bind_apply, DiskAction.look, DiskAction.change, DiskAction.mapFailure,
    hhome, h.absolute_eq, hcommand, h.write_eq, hhost, Except.mapError]

theorem judge_eq_ok : judge job d ending = .ok () ↔ ending = .exited 0 ∧ d.isFile job.output := by
  cases ending with
  | outOfTime limit => simp [judge]
  | killed => simp [judge]
  | exited code => by_cases hcode : code = 0 <;> simp [judge, hcode]

theorem judge_exited_zero : judge job d (.exited 0) =
    if d.isFile job.output then .ok () else .error (.noOutput job.output) := by
  simp [judge]

/-- A simulation succeeds only if the program has exited well and its output is there. -/
theorem exists_runs_of_simulate (h : p.simulate host job given = (.ok (), left)) :
    ∃ full started, p.Runs host job given full started (.exited 0) left ∧
      left.isFile full.output = true := by
  simp only [simulate, DiskAction.bind_eq_ok, DiskAction.look_eq_ok,
    DiskAction.mapFailure_eq_ok, mapError_eq_ok] at h
  obtain ⟨home, _, ⟨hhome, rfl⟩, full, _, ⟨habsolute, rfl⟩, command, _, ⟨hcommand, rfl⟩, ⟨⟩,
    started, hwrite, ending, left', hhost, hjudge, rfl⟩ := h
  obtain ⟨rfl, hfile⟩ := judge_eq_ok.mp hjudge
  have hwrite := mapError_eq_ok.mp (DiskAction.change_eq_ok.mp hwrite)
  exact ⟨full, started, ⟨habsolute, hwrite, home, command, hhome, hcommand, hhost⟩, hfile⟩

theorem absolute_of_job (h : job.absolute given = .ok full) :
    given.absolute job.output = .ok full.output ∧
      given.absolute job.console = .ok full.console := by
  unfold Job.absolute at h
  cases hflow : given.canonical job.flowLog with
  | error error => simp [hflow, bind, Except.bind] at h
  | ok flowLog =>
    cases hallocation : given.canonical job.allocationLog with
    | error error => simp [hflow, hallocation, bind, Except.bind] at h
    | ok allocationLog =>
      cases houtput : given.absolute job.output with
      | error error => simp [hflow, hallocation, houtput, bind, Except.bind] at h
      | ok output =>
        cases hconsole : given.absolute job.console with
        | error error => simp [hflow, hallocation, houtput, hconsole, bind, Except.bind] at h
        | ok console =>
          simp only [hflow, hallocation, houtput, hconsole, bind, Except.bind, pure, Except.pure,
            Except.ok.injEq] at h
          subst h
          exact ⟨rfl, rfl⟩

end SimulatorProgram

/-! ## The files of a run -/

/-- The output that the program is told of is in the place of the output of the job, whatever the
disks are on which the two paths are followed. -/
theorem SimulatorProgram.Runs.place_eq (houtput : job.output = results.join job.id.partialName)
    (h : p.Runs host job given full started ending left)
    (hnames : ∀ name ∈ given.current, IsEntryName name) (hcurrent : d.current = given.current)
    (hplace : d.locate job.output = .ok place) {q : Place} (hq : e.locate full.output = .ok q) :
    q = place := by
  have habsolute := (absolute_of_job h.absolute_eq).1
  have hname := job.id.isEntryName_partialName
  rw [houtput] at habsolute hplace
  rw [Disk.locate_absolute hnames hname habsolute hq, Disk.locate_join_eq hname hplace, Disk.start,
    Disk.start, hcurrent]

/-- When the program starts, only the console file has been made. -/
theorem SimulatorProgram.Runs.made_console
    (hconsole : job.console = results.join job.id.consoleName)
    (h : p.Runs host job given full started ending left) :
    given.SameDirectories started ∧ ∀ place, place.head? ≠ some job.id.consoleName →
      given.at? place = started.at? place := by
  have hname := job.id.isEntryName_consoleName
  have habsolute := (absolute_of_job h.absolute_eq).2
  rw [hconsole] at habsolute
  obtain ⟨home, -, hhome⟩ := (Disk.absolute_join_eq_ok hname).mp habsolute
  rcases (Disk.AgreeAt.refl given full.console).write (.refl given) .empty with
    ⟨error, herror, -⟩ | ⟨q, executable, hlocate, hfile, hwrite, -⟩
  · rw [h.write_eq] at herror
    cases herror
  · rw [h.write_eq] at hwrite
    cases hwrite
    refine ⟨Disk.sameDirectories_put hfile (by simp), fun place hplace => ?_⟩
    rw [Disk.at?_put _ _ _ _ (Disk.ne_nil_of_ne_directory hfile), if_neg]
    rintro rfl
    rw [hhome] at hlocate
    rw [Disk.locate_join_eq hname hlocate] at hplace
    exact hplace rfl

/-- The disk on which the program is started in a turn has no result, and in the place of the output
it has what was there when the turn came. -/
theorem started_of_clear (hjob : job.InDirectory results)
    (hclear : Disk.removeIfPresent (job.result results) before = (.ok (), given))
    (h : p.Runs host job given full started ending left) :
    before.SameDirectories started ∧ started.contains (job.result results) = false ∧
      ∀ place, before.locate job.output = .ok place → before.at? place = started.at? place := by
  obtain ⟨hcontains, hdirectories, hat⟩ := Disk.removeIfPresent_eq_ok hclear
  obtain ⟨hdirectories', hat'⟩ := h.made_console hjob.console_eq
  have hresultName := job.id.isEntryName_resultName
  have hpartialName := job.id.isEntryName_partialName
  refine ⟨hdirectories.trans hdirectories', ?_, fun place hplace => ?_⟩
  · refine Disk.contains_of_at?_eq_none fun place hplace => ?_
    have hlocate := hdirectories'.symm.locate_ok hplace
    rw [← hat', Disk.at?_eq_none_of_contains (Path.endsInSlash_join hresultName) hcontains hlocate]
    rw [Disk.locate_join_eq hresultName hplace]
    exact fun hname => job.id.resultName_ne_consoleName (Option.some.inj hname)
  · rw [hjob.output_eq] at hplace
    rw [hat, hat']
    · rw [Disk.locate_join_eq hpartialName hplace]
      exact fun hname => job.id.partialName_ne_consoleName (Option.some.inj hname)
    · intro hresult
      exact job.id.resultName_ne_partialName
        (name_unique hresultName hpartialName hresult hplace)

/-- If the result has been removed, its path leads somewhere wherever that of the output does. -/
theorem locate_result_of_clear (hjob : job.InDirectory results)
    (hclear : Disk.removeIfPresent (job.result results) before = (.ok (), given))
    (hplace : before.locate job.output = .ok place) :
    ∃ q, before.locate (job.result results) = .ok q := by
  have hname := job.id.isEntryName_resultName
  have htext : (job.result results).textFault? = none := by
    cases hfault : (job.result results).textFault? with
    | none => rfl
    | some fault =>
      have hfind : before.find (job.result results) = .error fault := by
        simp [Disk.find, Disk.resolve, Disk.locate_eq, hfault, bind, Except.bind]
      rw [Disk.removeIfPresent, Disk.removeFile, hfind] at hclear
      cases fault <;> cases hclear
      -- Only an empty path is not found for its text.
      unfold Path.textFault? at hfault
      split_ifs at hfault with hempty
      · obtain ⟨slash, -, hjoin⟩ := Path.toList_text_join (p := results) hname
        rw [show (results.join job.id.resultName).text = "" from hempty] at hjoin
        simp [hname.ne_empty] at hjoin
      · cases hfault
      · cases hfault
  rw [hjob.output_eq] at hplace
  obtain ⟨-, place', hwalk, hdirectory, -⟩ :=
    (Disk.locate_join job.id.isEntryName_partialName).mp hplace
  exact ⟨_, (Disk.locate_join hname).mpr ⟨htext, place', hwalk, hdirectory, rfl⟩⟩

/-- A file in the place of the output is published if nothing is in the way. -/
theorem settle_ok (hjob : job.InDirectory results) {contents : ByteArray} {executable : Bool}
    {target : Place} (hplace : left.locate job.output = .ok place)
    (hentry : left.at? place = some (.file contents executable))
    (htarget : left.locate (job.result results) = .ok target)
    (hcontains : left.contains (job.result results) = false) :
    ∃ after, job.settle results (.ok ()) left = (.ok (), after) ∧
      after.read (job.result results) = .ok contents := by
  have hresultName := job.id.isEntryName_resultName
  have hpartialName := job.id.isEntryName_partialName
  have hfind : left.find job.output = .ok (place, .file contents executable) :=
    Disk.find_of_locate (hjob.output_eq ▸ Path.endsInSlash_join hpartialName) hplace hentry
  have hsource : left.isDirectory job.output = false := by
    simp [Disk.isDirectory, hfind, Except.toOption, Entry.isFile]
  have hfree : left.isDirectory (job.result results) = false := by
    rw [Bool.eq_false_iff]
    intro hdirectory
    rw [Disk.contains_of_isDirectory hdirectory] at hcontains
    cases hcontains
  have hslash : (job.result results).endsInSlash = false := Path.endsInSlash_join hresultName
  have hends : (job.result results).endsInName = true := Path.endsInName_join hresultName
  have hne : left.locate (job.result results) ≠ .ok place := by
    intro hresult
    rw [hjob.output_eq] at hplace
    exact job.id.resultName_ne_partialName (name_unique hresultName hpartialName hresult hplace)
  obtain ⟨after, hrename⟩ : ∃ after, left.rename job.output (job.result results) = .ok after := by
    rw [Disk.rename_eq hsource hfree hends hslash, hfind, Disk.resolve_of_locate hslash htarget]
    exact ⟨_, rfl⟩
  exact ⟨after, settle_eq_ok.mpr hrename, Disk.read_of_rename hfind hends hslash hne hrename⟩

/-! ## Settling what the program has left -/

section

variable {made : Except SimulationFault Unit} (hjob : job.InDirectory results)
  (hhost : host.KeepsCurrent) (hnames : ∀ name ∈ before.current, IsEntryName name)
  (hclear : Disk.removeIfPresent (job.result results) before = (.ok (), given))
include hjob hnames hclear

/-- The output that the program is told of is in the place that the output of the job had when the
turn came. -/
theorem place_of_clear (h : p.Runs host job given full started ending left)
    (hcurrent : d.current = given.current) (hplace : d.locate job.output = .ok place) {q : Place}
    (hq : e.locate full.output = .ok q) : q = place := by
  have hgiven := keepsCurrent_removeIfPresent (job.result results) before
  rw [hclear] at hgiven
  exact h.place_eq hjob.output_eq (by rwa [hgiven]) hcurrent hplace hq

theorem contains_of_vacant (hvacant : before.Vacant job.output)
    (h : p.Runs host job given full started ending left) :
    started.contains full.output = false := by
  have hgiven := keepsCurrent_removeIfPresent (job.result results) before
  rw [hclear] at hgiven
  obtain ⟨place, hplace, hnone⟩ := hvacant
  obtain ⟨-, -, hat⟩ := started_of_clear hjob hclear h
  refine Disk.contains_of_at?_eq_none fun q hq => ?_
  rw [place_of_clear hjob hnames hclear h hgiven.symm hplace hq, ← hat place hplace, hnone]

include hhost

/-- What is published is what the program has left as its output. -/
theorem runs_of_settle (hcall : p.simulate host job given = (made, left))
    (hsettle : job.settle results made left = (.ok (), after)) :
    ∃ full started contents, p.Runs host job given full started (.exited 0) left ∧
      left.read full.output = .ok contents ∧ after.read (job.result results) = .ok contents := by
  cases made with
  | error fault =>
    obtain ⟨fault', hfailed⟩ := settle_error results job fault left
    rw [hfailed] at hsettle
    cases hsettle
  | ok u =>
    have hleft := keepsCurrent_simulate hhost p job given
    rw [hcall] at hleft
    obtain ⟨full, started, hruns, hfile⟩ :=
      SimulatorProgram.exists_runs_of_simulate hcall
    have hrename := settle_eq_ok.mp hsettle
    obtain ⟨place, entry, hfind⟩ := Disk.find_of_rename hrename
    obtain ⟨q, contents, executable, hfind'⟩ := Disk.isFile_iff.mp hfile
    have hplace := Disk.locate_of_resolve (Disk.find_eq_ok.mp hfind).1
    have hq := Disk.locate_of_resolve (Disk.find_eq_ok.mp hfind').1
    obtain rfl := place_of_clear hjob hnames hclear hruns hleft hplace hq
    have hentry : entry = .file contents executable := by
      have hentry := (Disk.find_eq_ok.mp hfind).2
      rw [(Disk.find_eq_ok.mp hfind').2] at hentry
      exact (Option.some.inj hentry).symm
    have hne : left.locate (job.result results) ≠ .ok q := by
      intro hresult
      rw [hjob.output_eq] at hplace
      exact job.id.resultName_ne_partialName (name_unique job.id.isEntryName_resultName
        job.id.isEntryName_partialName hresult hplace)
    refine ⟨full, started, contents, hruns, Disk.read_eq_ok.mpr ⟨q, executable, hfind'⟩, ?_⟩
    rw [hentry] at hfind
    exact Disk.read_of_rename hfind (Path.endsInName_join job.id.isEntryName_resultName)
      (Path.endsInSlash_join job.id.isEntryName_resultName) hne hrename

omit hhost

section

variable {outcome : Except SimulationFault Unit}
  (h : p.Runs host job given full started (.exited 0) left)
  (hresult : started.AgreeAt left (job.result results))
  (houtput : started.AgreeAt left job.output)
  (hsettle : job.settle results (SimulatorProgram.judge full left (.exited 0)) left =
    (outcome, after))
include h hresult houtput hsettle

/-- A program that exits well without having made its output is found out if there was nothing in
the place of the output. -/
theorem settle_of_vacant (hleft : left.current = given.current)
    (hvacant : before.Vacant job.output) :
    outcome = .error (.noOutput full.output) ∧ after.contains job.output = false ∧
      after.contains (job.result results) = false := by
  obtain ⟨hdirectories, hcontains, hat⟩ := started_of_clear hjob hclear h
  obtain ⟨place, hplace, hnone⟩ := hvacant
  have hvacant : left.Vacant job.output :=
    houtput.vacant ⟨place, hdirectories.locate_ok hplace, (hat place hplace).symm.trans hnone⟩
  have hfile : left.isFile full.output = false := by
    rw [Bool.eq_false_iff]
    intro hfile
    obtain ⟨q, contents, executable, hfind⟩ := Disk.isFile_iff.mp hfile
    obtain ⟨hresolve, hentry⟩ := Disk.find_eq_ok.mp hfind
    obtain ⟨place', hplace', hnone'⟩ := hvacant
    rw [place_of_clear hjob hnames hclear h hleft hplace' (Disk.locate_of_resolve hresolve),
      hnone'] at hentry
    cases hentry
  have hremove : Disk.removeIfPresent job.output left = (.ok (), left) := by
    simp [Disk.removeIfPresent, Disk.removeFile, hvacant.find_eq, bind, Except.bind]
  rw [SimulatorProgram.judge_exited_zero, hfile] at hsettle
  have hsettle' : job.settle results (.error (.noOutput full.output)) left =
      (.error (.noOutput full.output), left) := by
    rw [Job.settle, DiskAction.bind_apply, DiskAction.mapFailure, hremove]
    rfl
  rw [if_neg (by decide), hsettle'] at hsettle
  cases hsettle
  exact ⟨rfl, hvacant.contains_eq_false, hresult.contains_eq ▸ hcontains⟩

/-- A file in the place of the output is published, although the program has not touched it. -/
theorem settle_of_stale {contents : ByteArray} {executable : Bool}
    (hstale : before.find job.output = .ok (place, .file contents executable))
    (hfull : started.AgreeAt left full.output) {q : Place}
    (hq : started.locate full.output = .ok q) :
    outcome = .ok () ∧ after.read (job.result results) = .ok contents := by
  obtain ⟨hdirectories, hcontains, hat⟩ := started_of_clear hjob hclear h
  have hpartialName := job.id.isEntryName_partialName
  have hgiven := keepsCurrent_removeIfPresent (job.result results) before
  rw [hclear] at hgiven
  obtain ⟨hresolve, hentry⟩ := Disk.find_eq_ok.mp hstale
  have hplace := Disk.locate_of_resolve hresolve
  obtain rfl := place_of_clear hjob hnames hclear h hgiven.symm hplace hq
  have hentry : left.at? q = some (.file contents executable) := by
    rw [← hfull.at?_eq q hq, ← hat q hplace, hentry]
  have hfile : left.isFile full.output = true := by
    have habsolute := (SimulatorProgram.absolute_of_job h.absolute_eq).1
    rw [hjob.output_eq] at habsolute
    obtain ⟨home, -, hhome⟩ := (Disk.absolute_join_eq_ok hpartialName).mp habsolute
    have hslash : full.output.endsInSlash = false := hhome ▸ Path.endsInSlash_join hpartialName
    exact Disk.isFile_iff.mpr ⟨q, contents, executable,
      Disk.find_of_locate hslash (hfull.locate_eq ▸ hq) hentry⟩
  obtain ⟨target, htarget⟩ := locate_result_of_clear hjob hclear hplace
  obtain ⟨after', hsettle', hread⟩ := settle_ok hjob
    (houtput.locate_eq ▸ hdirectories.locate_ok hplace) hentry
    (hresult.locate_eq ▸ hdirectories.locate_ok htarget) (hresult.contains_eq ▸ hcontains)
  rw [SimulatorProgram.judge_exited_zero, if_pos hfile, hsettle'] at hsettle
  cases hsettle
  exact ⟨rfl, hread⟩

end

end

/-! ## Turns with a simulator program -/

/-- What becomes of a pair in a turn of a batch whose simulator is a program. -/
structure SimulatorProgram.Verdict (p : SimulatorProgram) (host : Host) (results : Path)
    (before : Disk) (run : PairRun) (after : Disk) : Prop where
  /-- A pair succeeds only if the program has exited well and left a file as its output. This file
  is then the result. -/
  succeeded : run.outcome = .ok () → ∃ given full started left contents,
    run.given = some given ∧ p.Runs host run.job given full started (.exited 0) left ∧
      left.read full.output = .ok contents ∧ after.read (run.job.result results) = .ok contents
  /-- If there is nothing in the place of the output when the turn comes, then there is no output
  when the program starts. -/
  vacant : before.Vacant run.job.output → ∀ given full started ending left,
    run.given = some given → p.Runs host run.job given full started ending left →
      started.contains full.output = false
  /-- In this case the pair fails for want of an output if the program exits well without having
  made one, and neither an output nor a result is there. -/
  silent : before.Vacant run.job.output → ∀ given full started left,
    run.given = some given → p.Runs host run.job given full started (.exited 0) left →
      (∀ path ∈ [run.job.output, run.job.result results], started.AgreeAt left path) →
        run.outcome = .error (.noOutput full.output) ∧ after.contains run.job.output = false ∧
          after.contains (run.job.result results) = false
  /-- Otherwise, if there is a file in the place of the output, it becomes the result even though
  the program has not touched it. -/
  stale : ∀ contents, before.read run.job.output = .ok contents → ∀ given full started left,
    run.given = some given → p.Runs host run.job given full started (.exited 0) left →
      (∃ place, started.locate full.output = .ok place) →
        (∀ path ∈ [full.output, run.job.output, run.job.result results],
          started.AgreeAt left path) →
            run.outcome = .ok () ∧ after.read (run.job.result results) = .ok contents

/-- Every turn with a simulator program goes like this. -/
theorem verdict_of_turn {run : PairRun} (hhost : host.KeepsCurrent)
    (hnames : ∀ name ∈ before.current, IsEntryName name) (hjob : run.job.InDirectory results)
    (h : Turn (p.simulate host) results before run.job run after) :
    p.Verdict host results before run after := by
  obtain ⟨job, given?, outcome⟩ := run
  cases h with
  | refused hclear => exact ⟨nofun, fun _ _ _ _ _ _ => nofun, fun _ _ _ _ _ => nofun,
      fun _ _ _ _ _ _ => nofun⟩
  | @called given left _ made _ hclear hcall hsettle =>
    have hcurrent : left.current = given.current := by
      have hleft := keepsCurrent_simulate hhost p job given
      rwa [hcall] at hleft
    -- There is only one way in which the program can have run.
    have hmade : ∀ {full started ending left'}, p.Runs host job given full started ending left' →
        made = SimulatorProgram.judge full left ending ∧ left' = left := by
      intro full started ending left' hruns
      rw [hruns.simulate_eq] at hcall
      cases hcall
      exact ⟨rfl, rfl⟩
    refine ⟨?succeeded, ?vacant, ?silent, ?stale⟩
    case succeeded =>
      rintro rfl
      obtain ⟨full, started, contents, hruns, hleft, hafter⟩ :=
        runs_of_settle hjob hhost hnames hclear hcall hsettle
      exact ⟨given, full, started, left, contents, rfl, hruns, hleft, hafter⟩
    case vacant =>
      intro hvacant given' full started ending left' hgiven hruns
      cases hgiven
      exact contains_of_vacant hjob hnames hclear hvacant hruns
    case silent =>
      intro hvacant given' full started left' hgiven hruns halone
      cases hgiven
      obtain ⟨rfl, rfl⟩ := hmade hruns
      exact settle_of_vacant hjob hnames hclear hruns (halone _ (by simp)) (halone _ (by simp))
        hsettle hcurrent hvacant
    case stale =>
      intro contents hread given' full started left' hgiven hruns hlocate halone
      cases hgiven
      obtain ⟨rfl, rfl⟩ := hmade hruns
      obtain ⟨place, executable, hfind⟩ := Disk.read_eq_ok.mp hread
      obtain ⟨q, hq⟩ := hlocate
      exact settle_of_stale hjob hnames hclear hruns (halone _ (by simp)) (halone _ (by simp))
        hsettle hfind (halone _ (by simp)) hq

/-- **Results of a batch with a simulator program.** If the programs that the host runs do not
change the current directory, every turn of the batch goes as `SimulatorProgram.Verdict` tells: a
pair succeeds only if its program has exited well and left an output, and a program that has made no
output is found out unless there was a file in its place when the turn came. -/
theorem runAll_verdicts {allow : Bool} {batch : BatchRun} (hhost : host.KeepsCurrent)
    (hnames : ∀ name ∈ d.current, IsEntryName name)
    (hresults : Disk.prepareOutput results allow d = (.ok (), e))
    (h : runAll (p.simulate host) logs results allow d = (.ok batch, after))
    {earlier later : List PairRun} {run : PairRun} (hrun : batch.runs = earlier ++ run :: later) :
    ∃ before after', Turns (p.simulate host) results e earlier before ∧
      Turn (p.simulate host) results before run.job run after' ∧
        Turns (p.simulate host) results after' later after ∧
          p.Verdict host results before run after' := by
  obtain ⟨place, hlogs, hjobs, -, hturns⟩ := turns_of_runAll hresults h
  rw [hrun] at hturns
  obtain ⟨before, after', hearlier, hturn, hlater⟩ := hturns.split
  refine ⟨before, after', hearlier, hturn, hlater, verdict_of_turn hhost ?_ ?_ hturn⟩
  · have hgrows := Disk.grows_prepareOutput results allow d
    rw [hresults] at hgrows
    rwa [hearlier.current_eq (keepsCurrent_simulate hhost p), ← hgrows.current]
  · have hmem : run ∈ batch.runs := by
      rw [hrun]
      simp
    obtain ⟨-, -, hjob⟩ := BatchRun.job_eq_jobIn hjobs hmem
    rw [hjob]
    exact run.job.id.inDirectory_jobIn logs results

/-! ## A program that does nothing -/

/-- A host whose programs exit well and do nothing. -/
def idleHost : Host := fun _ _ _ d => (.ok (.exited 0), d)

/-- A program that is started directly. -/
def directProgram : SimulatorProgram := ⟨⟨"n"⟩, ⟨"t"⟩, "sim", 25.0, none, .direct⟩

/-- A disk with a pair to simulate, on which there may be something else. -/
def onePair (leftovers : List (Place × Entry)) : Disk :=
  (leftovers ++ ([(["l"], .directory), (["r"], .directory), (["n"], .directory),
    (["flows__0.dat", "l"], .file .empty false),
    (["alloc__0_0.dat", "l"], .file .empty false)] : List (Place × Entry))).foldl
      (fun d (place, entry) => d.put place entry) ⟨∅, []⟩

theorem runAll_verdicts_onePair : ∃ batch after run,
    runAll (directProgram.simulate idleHost) ⟨"l"⟩ ⟨"r"⟩ true (onePair []) = (.ok batch, after) ∧
      batch.runs = [run] ∧
        batch.failed = [(⟨⟨0⟩, ⟨0⟩⟩, .noOutput ⟨"/r/.0_0.txt.partial"⟩)] ∧
          ∃ before after', directProgram.Verdict idleHost ⟨"r"⟩ before run after' := by
  have hresults : Disk.prepareOutput ⟨"r"⟩ true (onePair []) = (.ok (), onePair []) :=
    Disk.prepareOutput_of_isDirectory (by decide +kernel)
  have hbatch : (runAll (directProgram.simulate idleHost) ⟨"l"⟩ ⟨"r"⟩ true
      (onePair [])).1.toOption.map (fun batch => (batch.runs.length, batch.failed)) =
        some (1, [(⟨⟨0⟩, ⟨0⟩⟩, .noOutput ⟨"/r/.0_0.txt.partial"⟩)]) := by decide +kernel
  rcases hrun : runAll (directProgram.simulate idleHost) ⟨"l"⟩ ⟨"r"⟩ true (onePair []) with
    ⟨fault | batch, after⟩
  · simp [hrun, Except.toOption] at hbatch
  · simp only [hrun, Except.toOption, Option.map_some, Option.some.injEq, Prod.mk.injEq] at hbatch
    obtain ⟨run, hruns⟩ := List.length_eq_one_iff.mp hbatch.1
    have hcurrent : ∀ name ∈ (onePair []).current, IsEntryName name :=
      fun _ hname => absurd hname List.not_mem_nil
    obtain ⟨before, after', -, -, -, hverdict⟩ := @runAll_verdicts directProgram idleHost ⟨"l"⟩
      ⟨"r"⟩ after (onePair []) (onePair []) true batch (fun _ _ _ _ => rfl) hcurrent hresults hrun
        [] [] run hruns
    exact ⟨batch, after, run, rfl, hruns, hbatch.2, before, after', hverdict⟩

/-- What an earlier batch has left in the place of the output becomes the result, though the program
has done nothing. -/
theorem runAll_publishes_leftover :
    (∀ command console limit d, (idleHost command console limit d).2 = d) ∧
      ∃ batch after, runAll (directProgram.simulate idleHost) ⟨"l"⟩ ⟨"r"⟩ true
        (onePair [([".0_0.txt.partial", "r"], .file "old".toUTF8 false)]) = (.ok batch, after) ∧
          batch.succeeded = [⟨⟨0⟩, ⟨0⟩⟩] ∧ after.read ⟨"r/0_0.txt"⟩ = .ok "old".toUTF8 := by
  refine ⟨fun _ _ _ _ => rfl, ?_⟩
  generalize hd : onePair [([".0_0.txt.partial", "r"], .file "old".toUTF8 false)] = d
  have hbatch : (runAll (directProgram.simulate idleHost) ⟨"l"⟩ ⟨"r"⟩ true d).1.toOption.map
      BatchRun.succeeded = some [⟨⟨0⟩, ⟨0⟩⟩] := by
    subst hd
    decide +kernel
  have hread : ((runAll (directProgram.simulate idleHost) ⟨"l"⟩ ⟨"r"⟩ true d).2.read
      ⟨"r/0_0.txt"⟩).toOption = some "old".toUTF8 := by
    subst hd
    decide +kernel
  rcases hrun : runAll (directProgram.simulate idleHost) ⟨"l"⟩ ⟨"r"⟩ true d with
    ⟨fault | batch, after⟩
  · simp [hrun, Except.toOption] at hbatch
  · simp only [hrun, Except.toOption, Option.map_some, Option.some.injEq] at hbatch
    rw [hrun] at hread
    refine ⟨batch, after, rfl, hbatch, ?_⟩
    cases hafter : after.read ⟨"r/0_0.txt"⟩ with
    | error error => simp [hafter, Except.toOption] at hread
    | ok contents => simpa [hafter, Except.toOption] using hread

end RackTraffic
