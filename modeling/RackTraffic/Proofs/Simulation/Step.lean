import Mathlib.Logic.Function.Basic
import RackTraffic.Proofs.Simulation.Turn

/-!
# The steps of a run

The run of a pair has three steps: clear, simulate, settle. When several workers run pairs at the
same time, the steps of different pairs come in any order, so a state of the work is a disk together
with the progress of every job (`Work`), and a *schedule* is the list of the jobs whose steps are
taken, one after the other. Every order in which the steps can come is a schedule.

A job that is given three steps in a row has its turn (`Turn.run_replicate`), and so a batch is a
schedule, too (`Turns.run_inTurn`).
-/

namespace RackTraffic

variable {simulator : Simulator} {results : Path}

/-- How far the run of a pair has come. -/
inductive Progress where
  | waiting
  /-- The result of an earlier batch is gone. -/
  | cleared
  /-- The simulator has returned, and this is what there was to read in the partial file. -/
  | simulated (made : Except SimulationFault Unit) (left : Except IoError ByteArray)
  /-- The partial file, in which there was this to read, has become the result. -/
  | published (left : Except IoError ByteArray)
  | failed (fault : SimulationFault)

/-- The outcome of a run that has ended. -/
def Progress.outcome? : Progress → Option (Except SimulationFault Unit)
  | .published _ => some (.ok ())
  | .failed fault => some (.error fault)
  | _ => none

/-- The next step of a job. A job that has ended takes no more steps. -/
def Job.advance (simulator : Simulator) (results : Path) (job : Job) (d : Disk) :
    Progress → Progress × Disk
  | .waiting =>
    match job.clear results d with
    | (.ok (), d') => (.cleared, d')
    | (.error fault, d') => (.failed fault, d')
  | .cleared =>
    match simulator job d with
    | (made, d') => (.simulated made (d'.read job.output), d')
  | .simulated made left =>
    match job.settle results made d with
    | (.ok (), d') => (.published left, d')
    | (.error fault, d') => (.failed fault, d')
  | .published left => (.published left, d)
  | .failed fault => (.failed fault, d)

/-- The progress of a run whose old result has been removed, or not. -/
def Progress.ofCleared : Except SimulationFault Unit → Progress
  | .ok () => .cleared
  | .error fault => .failed fault

/-- The progress of a run that has been settled with an outcome. -/
def Progress.ofSettled (left : Except IoError ByteArray) : Except SimulationFault Unit → Progress
  | .ok () => .published left
  | .error fault => .failed fault

@[simp] theorem Progress.outcome?_ofSettled (left : Except IoError ByteArray)
    (outcome : Except SimulationFault Unit) :
    (Progress.ofSettled left outcome).outcome? = some outcome := by
  rcases outcome with _ | _ <;> rfl

section

variable (job : Job) (d : Disk)

theorem Job.advance_waiting : job.advance simulator results d .waiting =
    (.ofCleared (job.clear results d).1, (job.clear results d).2) := by
  unfold advance
  rcases job.clear results d with ⟨_ | _, d'⟩ <;> rfl

theorem Job.advance_cleared : job.advance simulator results d .cleared =
    (.simulated (simulator job d).1 ((simulator job d).2.read job.output),
      (simulator job d).2) := by
  unfold advance
  rfl

theorem Job.advance_simulated (made : Except SimulationFault Unit)
    (left : Except IoError ByteArray) : job.advance simulator results d (.simulated made left) =
      (.ofSettled left (job.settle results made d).1, (job.settle results made d).2) := by
  unfold advance
  dsimp only
  rcases job.settle results made d with ⟨_ | _, d'⟩ <;> rfl

end

theorem Job.advance_of_ended {job : Job} {d : Disk} {p : Progress}
    (h : p.outcome?.isSome) : job.advance simulator results d p = (p, d) := by
  cases p with
  | published left => rfl
  | failed fault => rfl
  | _ => cases h

/-- How many steps a run takes at most until it has ended. -/
def Progress.stepsLeft : Progress → Nat
  | .waiting => 3
  | .cleared => 2
  | .simulated .. => 1
  | .published _ | .failed _ => 0

theorem Progress.outcome?_isSome_iff {p : Progress} : p.outcome?.isSome ↔ p.stepsLeft = 0 := by
  cases p <;> simp [outcome?, stepsLeft]

theorem stepsLeft_advance (job : Job) (d : Disk) (p : Progress) :
    (job.advance simulator results d p).1.stepsLeft ≤ p.stepsLeft - 1 := by
  cases p with
  | waiting =>
    rw [Job.advance_waiting]
    rcases (job.clear results d).1 with _ | _ <;> simp [Progress.ofCleared, Progress.stepsLeft]
  | cleared => simp [Job.advance_cleared, Progress.stepsLeft]
  | simulated made left =>
    rw [Job.advance_simulated]
    rcases (job.settle results made d).1 with _ | _ <;>
      simp [Progress.ofSettled, Progress.stepsLeft]
  | published left => exact Nat.zero_le _
  | failed fault => exact Nat.zero_le _

/-- The disk that a simulator is given, if the next step of its job calls it. -/
def Progress.given? (d : Disk) : Progress → Option Disk
  | .cleared => some d
  | _ => none

/-! ## Schedules -/

/-- A disk on which jobs are at work. -/
structure Work where
  disk : Disk
  progress : Job → Progress

namespace Work

/-- The work before any step. -/
def start (d : Disk) : Work := ⟨d, fun _ => .waiting⟩

/-- A job takes its next step. -/
def step (simulator : Simulator) (results : Path) (w : Work) (job : Job) : Work where
  disk := (job.advance simulator results w.disk (w.progress job)).2
  progress := Function.update w.progress job
    (job.advance simulator results w.disk (w.progress job)).1

/-- Jobs take steps in the order of a schedule. -/
def run (simulator : Simulator) (results : Path) (w : Work) (schedule : List Job) : Work :=
  schedule.foldl (step simulator results) w

/-- The calls of the simulator along a schedule, each with the disk that it was given. -/
def calls (simulator : Simulator) (results : Path) : Work → List Job → List (Job × Disk)
  | _, [] => []
  | w, job :: schedule =>
    ((w.progress job).given? w.disk).toList.map (Prod.mk job) ++
      (w.step simulator results job).calls simulator results schedule

theorem run_cons (w : Work) (job : Job) (schedule : List Job) :
    w.run simulator results (job :: schedule) =
      (w.step simulator results job).run simulator results schedule := rfl

theorem run_append (w : Work) (first second : List Job) :
    w.run simulator results (first ++ second) =
      (w.run simulator results first).run simulator results second :=
  List.foldl_append

theorem run_concat (w : Work) (schedule : List Job) (job : Job) :
    w.run simulator results (schedule ++ [job]) =
      (w.run simulator results schedule).step simulator results job :=
  run_append w schedule [job]

theorem calls_append (w : Work) (first second : List Job) :
    w.calls simulator results (first ++ second) = w.calls simulator results first ++
      (w.run simulator results first).calls simulator results second := by
  induction first generalizing w with
  | nil => rfl
  | cons job first ih => simp [calls, run_cons, ih]

theorem step_progress_of_ne {w : Work} {job other : Job} (h : other ≠ job) :
    (w.step simulator results job).progress other = w.progress other :=
  Function.update_of_ne h _ _

theorem step_progress_self (w : Work) (job : Job) :
    (w.step simulator results job).progress job =
      (job.advance simulator results w.disk (w.progress job)).1 :=
  Function.update_self _ _ _

/-- The step of a job whose progress is known to be `p`, on a disk known to be `d`. -/
theorem step_update (progress : Job → Progress) (d : Disk) (job : Job) (p : Progress) :
    step simulator results ⟨d, Function.update progress job p⟩ job =
      ⟨(job.advance simulator results d p).2,
        Function.update progress job (job.advance simulator results d p).1⟩ := by
  simp [step]

theorem run_progress_of_notMem {w : Work} {job : Job} {schedule : List Job} (h : job ∉ schedule) :
    (w.run simulator results schedule).progress job = w.progress job := by
  induction schedule generalizing w with
  | nil => rfl
  | cons other schedule ih =>
    rw [List.mem_cons, not_or] at h
    rw [run_cons, ih h.2, step_progress_of_ne h.1]

/-- Each step of a job brings it nearer to its end, and the steps of the others do not matter. -/
theorem stepsLeft_run (w : Work) (schedule : List Job) (job : Job) :
    ((w.run simulator results schedule).progress job).stepsLeft ≤
      (w.progress job).stepsLeft - schedule.count job := by
  induction schedule generalizing w with
  | nil => exact Nat.le_refl _
  | cons other schedule ih =>
    have hrest := ih (w.step simulator results other)
    rw [run_cons]
    by_cases h : other = job
    · subst h
      have hstep := @stepsLeft_advance simulator results other w.disk (w.progress other)
      rw [step_progress_self] at hrest
      rw [List.count_cons_self]
      omega
    · rwa [step_progress_of_ne (Ne.symm h), ← List.count_cons_of_ne h] at hrest

/-- Three steps are enough. -/
theorem ended_of_count (w : Work) {schedule : List Job} {job : Job}
    (hcount : 3 ≤ schedule.count job) :
    ((w.run simulator results schedule).progress job).outcome?.isSome := by
  have hrun := @stepsLeft_run simulator results w schedule job
  have hstart : (w.progress job).stepsLeft ≤ 3 := by
    cases w.progress job <;> simp [Progress.stepsLeft]
  rw [Progress.outcome?_isSome_iff]
  omega

end Work

/-! ## Turns are schedules -/

/-- Three steps in a row are a turn. -/
theorem Turn.run_replicate {w : Work} {job : Job} {run : PairRun} {e : Disk}
    (h : Turn simulator results w.disk job run e) (hwaiting : w.progress job = .waiting) :
    (∃ p, p.outcome? = some run.outcome ∧
      w.run simulator results (List.replicate 3 job) = ⟨e, Function.update w.progress job p⟩) ∧
      w.calls simulator results (List.replicate 3 job) = run.given.toList.map (Prod.mk job) := by
  obtain ⟨d, progress⟩ := w
  have hstart : (⟨d, progress⟩ : Work) = ⟨d, Function.update progress job .waiting⟩ := by
    rw [← hwaiting, Function.update_eq_self]
  cases h with
  | @refused error _ hclear =>
    have hfirst : job.advance simulator results d .waiting = (.failed (.io error), e) := by
      rw [Job.advance_waiting, clear_eq hclear]
      rfl
    have hended : job.advance simulator results e (.failed (.io error)) =
        (.failed (.io error), e) := Job.advance_of_ended rfl
    rw [hstart]
    refine ⟨⟨.failed (.io error), rfl, ?_⟩, ?_⟩
    · simp only [List.replicate, Work.run, List.foldl, Work.step_update, hfirst, hended,
        Function.update_idem]
    · simp [List.replicate, Work.calls, Work.step_update, hfirst, hended, Progress.given?]
  | @called given left _ made outcome hclear hcall hsettle =>
    have hfirst : job.advance simulator results d .waiting = (.cleared, given) := by
      rw [Job.advance_waiting, clear_eq hclear]
      rfl
    have hsecond : job.advance simulator results given .cleared =
        (.simulated made (left.read job.output), left) := by
      rw [Job.advance_cleared, hcall]
    have hthird : job.advance simulator results left (.simulated made (left.read job.output)) =
        (.ofSettled (left.read job.output) outcome, e) := by
      rw [Job.advance_simulated, hsettle]
    rw [hstart]
    refine ⟨⟨.ofSettled (left.read job.output) outcome, Progress.outcome?_ofSettled _ outcome, ?_⟩,
      ?_⟩
    · simp only [List.replicate, Work.run, List.foldl, Work.step_update, hfirst, hsecond, hthird,
        Function.update_idem]
    · simp [List.replicate, Work.calls, Work.step_update, hfirst, hsecond, Progress.given?]

/-- The schedule in which each job takes its three steps at once, job after job. -/
def inTurn (jobs : List Job) : List Job := jobs.flatMap (List.replicate 3)

theorem mem_inTurn {jobs : List Job} {job : Job} : job ∈ inTurn jobs ↔ job ∈ jobs := by
  simp [inTurn]

theorem three_le_count_inTurn {jobs : List Job} {job : Job} (h : job ∈ jobs) :
    3 ≤ (inTurn jobs).count job := by
  obtain ⟨first, rest, rfl⟩ := List.append_of_mem h
  have hself : (List.replicate 3 job).count job = 3 := List.count_replicate_self
  rw [inTurn, List.flatMap_append, List.flatMap_cons, List.count_append, List.count_append, hself]
  omega

/-- The turns of a batch are three steps for each job, job after job. -/
theorem Turns.run_inTurn {w : Work} {runs : List PairRun} {e : Disk}
    (h : Turns simulator results w.disk runs e)
    (hdistinct : runs.Pairwise fun p q => p.job ≠ q.job)
    (hwaiting : ∀ run ∈ runs, w.progress run.job = .waiting) :
    (w.run simulator results (inTurn (runs.map PairRun.job))).disk = e ∧
      (∀ run ∈ runs, ((w.run simulator results
        (inTurn (runs.map PairRun.job))).progress run.job).outcome? = some run.outcome) ∧
      w.calls simulator results (inTurn (runs.map PairRun.job)) =
        runs.flatMap fun run => run.given.toList.map (Prod.mk run.job) := by
  generalize hd : w.disk = d at h
  induction h generalizing w with
  | nil => exact ⟨hd, by simp, rfl⟩
  | @cons d e e' run runs hturn hrest ih =>
    subst hd
    rw [List.pairwise_cons] at hdistinct
    obtain ⟨⟨p, hp, hrun⟩, hcalls⟩ := hturn.run_replicate (hwaiting run (by simp))
    have hother : ∀ other ∈ runs, other.job ≠ run.job :=
      fun other hmem => (hdistinct.1 other hmem).symm
    have hstill : ∀ other ∈ runs,
        Function.update w.progress run.job p other.job = .waiting := fun other hmem => by
      rw [Function.update_of_ne (hother other hmem)]
      exact hwaiting other (by simp [hmem])
    obtain ⟨hdisk, houtcome, hcallsRest⟩ :=
      @ih ⟨e, Function.update w.progress run.job p⟩ hdistinct.2 hstill rfl
    have hsplit : inTurn ((run :: runs).map PairRun.job) =
        List.replicate 3 run.job ++ inTurn (runs.map PairRun.job) := rfl
    rw [hsplit, Work.run_append, Work.calls_append, hrun, hcalls, hcallsRest]
    refine ⟨hdisk, fun other hmem => ?_, rfl⟩
    rcases List.mem_cons.mp hmem with rfl | hmem
    · rw [Work.run_progress_of_notMem]
      · simpa using hp
      · -- The rest of the schedule has no step of this job.
        rw [mem_inTurn, List.mem_map]
        rintro ⟨later, hlater, heq⟩
        exact hother later hlater heq
    · exact houtcome other hmem

end RackTraffic
