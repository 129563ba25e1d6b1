import Mathlib.Data.List.Basic
import RackTraffic.Proofs.Disk.Basic
import RackTraffic.Simulation.Batch

/-!
# The turns of a batch

When the turn of a job comes, the result of an earlier batch is removed first. If this fails the
simulator is not called (`Turn.refused`). Otherwise it is called once, on the disk without the old
result, and what it has written is settled (`Turn.called`). There is no other way that a turn can go
(`turn_run`), and every turn of a batch starts on the disk that the turn before it has left
(`turns_mapM`).
-/

namespace RackTraffic

variable {simulator : Simulator} {results : Path}

/-- How the turn of a job goes on a disk, and the disk that it leaves. -/
inductive Turn (simulator : Simulator) (results : Path) (d : Disk) (job : Job) :
    PairRun → Disk → Prop where
  | refused {error : IoError} {e : Disk}
      (hclear : Disk.removeIfPresent (job.result results) d = (.error error, e)) :
      Turn simulator results d job ⟨job, none, .error (.io error)⟩ e
  | called {given left e : Disk} {made outcome : Except SimulationFault Unit}
      (hclear : Disk.removeIfPresent (job.result results) d = (.ok (), given))
      (hcall : simulator job given = (made, left))
      (hsettle : job.settle results made left = (outcome, e)) :
      Turn simulator results d job ⟨job, some given, outcome⟩ e

/-- Turns one after the other. -/
inductive Turns (simulator : Simulator) (results : Path) : Disk → List PairRun → Disk → Prop where
  | nil {d : Disk} : Turns simulator results d [] d
  | cons {d e e' : Disk} {run : PairRun} {runs : List PairRun}
      (hturn : Turn simulator results d run.job run e) (hrest : Turns simulator results e runs e') :
      Turns simulator results d (run :: runs) e'

theorem Turn.job_eq {d e : Disk} {job : Job} {run : PairRun}
    (h : Turn simulator results d job run e) : run.job = job := by
  cases h with
  | refused hclear => rfl
  | called hclear hcall hsettle => rfl

/-- The simulator is called unless the old result cannot be removed. -/
theorem Turn.called_or_refused {d e : Disk} {job : Job} {run : PairRun}
    (h : Turn simulator results d job run e) :
    (∃ given, run.given = some given) ∨
      ∃ error, Disk.removeIfPresent (job.result results) d = (.error error, e) ∧
        run.outcome = .error (.io error) := by
  cases h with
  | refused hclear => exact .inr ⟨_, hclear, rfl⟩
  | called hclear hcall hsettle => exact .inl ⟨_, rfl⟩

theorem clear_eq {job : Job} {d given : Disk} {cleared : Except IoError Unit}
    (hclear : Disk.removeIfPresent (job.result results) d = (cleared, given)) :
    job.clear results d = (cleared.mapError .io, given) := by
  simp [Job.clear, DiskAction.mapFailure, hclear]

/-- Every run is a turn. -/
theorem turn_run (job : Job) (d : Disk) :
    Turn simulator results d job (job.run simulator results d).1
      (job.run simulator results d).2 := by
  obtain ⟨cleared, given, hclear⟩ : ∃ cleared given,
      Disk.removeIfPresent (job.result results) d = (cleared, given) := ⟨_, _, rfl⟩
  cases cleared with
  | error error =>
    have hrun : job.run simulator results d = (⟨job, none, .error (.io error)⟩, given) := by
      simp [Job.run, stateM_bind_apply, clear_eq hclear, Except.mapError, stateM_pure_apply]
    rw [hrun]
    exact .refused hclear
  | ok u =>
    obtain ⟨made, left, hcall⟩ : ∃ made left, simulator job given = (made, left) := ⟨_, _, rfl⟩
    obtain ⟨outcome, e, hsettle⟩ : ∃ outcome e, job.settle results made left = (outcome, e) :=
      ⟨_, _, rfl⟩
    have hrun : job.run simulator results d = (⟨job, some given, outcome⟩, e) := by
      simp [Job.run, stateM_bind_apply, clear_eq hclear, Except.mapError, stateM_map_apply,
        stateM_get_apply, hcall, hsettle]
    rw [hrun]
    exact .called hclear hcall hsettle

/-- The runs of a batch are turns, in the order of the jobs. -/
theorem turns_mapM (jobs : List Job) (d : Disk) :
    ∃ runs e, (jobs.mapM (Job.run simulator results) : StateM Disk (List PairRun)) d = (runs, e) ∧
      runs.map PairRun.job = jobs ∧ Turns simulator results d runs e := by
  induction jobs generalizing d with
  | nil => exact ⟨[], d, rfl, rfl, .nil⟩
  | cons job jobs ih =>
    obtain ⟨run, d', hrun⟩ : ∃ run d', job.run simulator results d = (run, d') := ⟨_, _, rfl⟩
    have hturn : Turn simulator results d job run d' := by
      have h := @turn_run simulator results job d
      rwa [hrun] at h
    obtain ⟨runs, e, hrest, hjobs, hturns⟩ := ih d'
    refine ⟨run :: runs, e, ?_, ?_, .cons ?_ hturns⟩
    · simp [List.mapM_cons, stateM_bind_apply, stateM_map_apply, hrun, hrest]
    · rw [List.map_cons, hturn.job_eq, hjobs]
    · rwa [hturn.job_eq]

/-- A run of a batch has its turn after the earlier ones and before the later ones. -/
theorem Turns.split {d e : Disk} {earlier later : List PairRun} {run : PairRun}
    (h : Turns simulator results d (earlier ++ run :: later) e) :
    ∃ before after, Turns simulator results d earlier before ∧
      Turn simulator results before run.job run after ∧ Turns simulator results after later e := by
  induction earlier generalizing d with
  | nil =>
    cases h with
    | cons hturn hrest => exact ⟨d, _, .nil, hturn, hrest⟩
  | cons first earlier ih =>
    cases h with
    | cons hfirst hrest =>
      obtain ⟨before, after, hearlier, hturn, hlater⟩ := ih hrest
      exact ⟨before, after, .cons hfirst hearlier, hturn, hlater⟩

/-- Every run of a batch has had its turn. -/
theorem Turns.exists_turn {d e : Disk} {runs : List PairRun} {run : PairRun}
    (h : Turns simulator results d runs e) (hmem : run ∈ runs) :
    ∃ before after, Turn simulator results before run.job run after := by
  obtain ⟨earlier, later, rfl⟩ := List.append_of_mem hmem
  obtain ⟨before, after, -, hturn, -⟩ := h.split
  exact ⟨before, after, hturn⟩

end RackTraffic
