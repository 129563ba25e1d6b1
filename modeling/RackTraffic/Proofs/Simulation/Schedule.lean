import Mathlib.Data.List.Induction
import RackTraffic.Proofs.Simulation.Batch
import RackTraffic.Proofs.Simulation.Step

/-!
# What is reported of a schedule

A batch with several workers takes the steps of its pairs in the order of some schedule. What it
reports (`BatchRun.ofSchedule`) is put together afterwards, pair by pair, from the outcomes and from
the calls of the simulator along the schedule (`Work.calls`).

**Theorem (`ofSchedule_covers`).** Whatever the simulator reads and writes, and whatever the order
of the steps is, every pair is reported once, in the order of the pairs, and its simulator is called
once unless the old result cannot be removed.

**Theorem (`runAll_eq_ofSchedule`).** The batch that runs the pairs one after the other is the
schedule in which each job takes its three steps in a row.
-/

namespace RackTraffic

variable {simulator : Simulator} {logs results : Path} {d before : Disk} {place : Place}

/-! ## Calls along a schedule -/

namespace Work

variable {w : Work} {job other : Job} {schedule : List Job}

theorem calls_concat (w : Work) (schedule : List Job) (job : Job) :
    w.calls simulator results (schedule ++ [job]) = w.calls simulator results schedule ++
      (((w.run simulator results schedule).progress job).given?
        (w.run simulator results schedule).disk).toList.map (Prod.mk job) := by
  simp [calls_append, calls]

theorem lookup_calls_concat_self (w : Work) (schedule : List Job) (job : Job) :
    (w.calls simulator results (schedule ++ [job])).lookup job =
      ((w.calls simulator results schedule).lookup job).or
        (((w.run simulator results schedule).progress job).given?
          (w.run simulator results schedule).disk) := by
  rw [calls_concat, List.lookup_append]
  cases ((w.run simulator results schedule).progress job).given? _ <;> simp

theorem lookup_calls_concat_of_ne (h : other ≠ job) :
    (w.calls simulator results (schedule ++ [job])).lookup other =
      (w.calls simulator results schedule).lookup other := by
  rw [calls_concat, List.lookup_append]
  cases ((w.run simulator results schedule).progress job).given? _ <;>
    simp [List.lookup_cons, beq_false_of_ne h]

end Work

/-- Whether the simulator has been called, for every progress of a run. A run that has failed before
has an old result that cannot be removed. -/
def Progress.Called (results : Path) (job : Job) (given : Option Disk) : Progress → Prop
  | .waiting | .cleared => given = none
  | .simulated _ _ | .published _ => ∃ disk, given = some disk
  | .failed fault => (∃ disk, given = some disk) ∨
      ∃ d e error, Disk.removeIfPresent (job.result results) d = (.error error, e) ∧
        fault = .io error

/-- A step calls the simulator only if no step before it has done so. -/
theorem Progress.Called.advance {p : Progress} {job : Job} {given : Option Disk}
    (h : p.Called results job given) (d : Disk) :
    (job.advance simulator results d p).1.Called results job (given.or (p.given? d)) := by
  cases p with
  | waiting =>
    rw [Job.advance_waiting]
    rcases hclear : Disk.removeIfPresent (job.result results) d with ⟨_ | _, e⟩
    · rw [clear_eq hclear]
      exact .inr ⟨d, e, _, hclear, rfl⟩
    · obtain rfl : given = none := h
      rw [clear_eq hclear]
      exact rfl
  | cleared =>
    obtain rfl : given = none := h
    exact ⟨d, rfl⟩
  | simulated made left =>
    obtain ⟨disk, rfl⟩ := h
    rw [Job.advance_simulated]
    rcases (job.settle results made d).1 with fault | _
    · exact .inl ⟨disk, rfl⟩
    · exact ⟨disk, rfl⟩
  | published left =>
    obtain ⟨disk, rfl⟩ := h
    exact ⟨disk, rfl⟩
  | failed fault =>
    have hnone : given.or ((Progress.failed fault).given? d) = given := Option.or_none
    rw [hnone]
    exact h

namespace Work

variable {job : Job} {schedule : List Job}

theorem called_run (d : Disk) (schedule : List Job) (job : Job) :
    (((start d).run simulator results schedule).progress job).Called results job
      (((start d).calls simulator results schedule).lookup job) := by
  induction schedule using List.reverseRecOn with
  | nil => exact rfl
  | append_singleton schedule other ih =>
    rw [run_concat]
    by_cases h : job = other
    · subst h
      rw [step_progress_self, lookup_calls_concat_self]
      exact ih.advance _
    · rw [step_progress_of_ne h, lookup_calls_concat_of_ne h]
      exact ih

/-- No job is simulated twice. -/
theorem nodup_calls (d : Disk) (schedule : List Job) :
    (((start d).calls simulator results schedule).map Prod.fst).Nodup := by
  induction schedule using List.reverseRecOn with
  | nil => exact List.nodup_nil
  | append_singleton schedule job ih =>
    have hcalled := @called_run simulator results d schedule job
    rw [calls_concat]
    cases hp : ((start d).run simulator results schedule).progress job with
    | cleared =>
      rw [hp] at hcalled
      have hnew : ∀ call ∈ (start d).calls simulator results schedule, call.1 ≠ job :=
        fun call hcall heq => by simpa [heq] using List.lookup_eq_none_iff.mp hcalled call hcall
      rw [List.map_append, List.nodup_append]
      refine ⟨ih, by simp [Progress.given?], fun other hother called hcall heq => ?_⟩
      obtain ⟨call, hmem, rfl⟩ := List.mem_map.mp hother
      obtain rfl : called = job := by simpa [Progress.given?] using hcall
      exact hnew call hmem heq
    | _ => simpa [Progress.given?] using ih

theorem lookup_calls_eq_some {d given : Disk} :
    ((start d).calls simulator results schedule).lookup job = some given ↔
      (job, given) ∈ (start d).calls simulator results schedule := by
  constructor
  · intro h
    obtain ⟨first, rest, heq, -⟩ := List.lookup_eq_some_iff.mp h
    simp [heq]
  · intro h
    cases hlookup : ((start d).calls simulator results schedule).lookup job with
    | none => simpa using List.lookup_eq_none_iff.mp hlookup _ h
    | some given' =>
      obtain ⟨first, rest, heq, -⟩ := List.lookup_eq_some_iff.mp hlookup
      have hmem : (job, given') ∈ (start d).calls simulator results schedule := by simp [heq]
      have hsame := List.inj_on_of_nodup_map (nodup_calls d schedule) hmem h rfl
      exact congrArg some (Prod.mk.inj hsame).2

/-- Only jobs of the schedule are simulated. -/
theorem mem_of_mem_calls {w : Work} {schedule : List Job} {call : Job × Disk}
    (h : call ∈ w.calls simulator results schedule) : call.1 ∈ schedule := by
  induction schedule generalizing w with
  | nil => cases h
  | cons job schedule ih =>
    rw [calls, List.mem_append] at h
    rcases h with h | h
    · obtain ⟨disk, -, rfl⟩ := List.mem_map.mp h
      exact List.mem_cons_self
    · exact List.mem_cons_of_mem job (ih h)

end Work

/-! ## The report -/

namespace BatchRun

variable {jobs schedule : List Job} {skipped : List ScenarioId} {run : PairRun}

/-- What is reported of jobs that have taken their steps in the order of a schedule. A job that has
not ended is not reported. -/
def ofSchedule (simulator : Simulator) (results : Path) (d : Disk) (jobs : List Job)
    (skipped : List ScenarioId) (schedule : List Job) : BatchRun where
  runs := jobs.filterMap fun job =>
    (((Work.start d).run simulator results schedule).progress job).outcome?.map fun outcome =>
      ⟨job, ((Work.start d).calls simulator results schedule).lookup job, outcome⟩
  skipped := skipped

theorem mem_runs_ofSchedule :
    run ∈ (ofSchedule simulator results d jobs skipped schedule).runs ↔ run.job ∈ jobs ∧
      (((Work.start d).run simulator results schedule).progress run.job).outcome? =
        some run.outcome ∧
      ((Work.start d).calls simulator results schedule).lookup run.job = run.given := by
  obtain ⟨job, given, outcome⟩ := run
  simp only [ofSchedule, List.mem_filterMap, Option.map_eq_some_iff, PairRun.mk.injEq]
  constructor
  · rintro ⟨job, hmem, outcome, houtcome, rfl, rfl, rfl⟩
    exact ⟨hmem, houtcome, rfl⟩
  · rintro ⟨hmem, houtcome, rfl⟩
    exact ⟨job, hmem, outcome, houtcome, rfl, rfl, rfl⟩

theorem jobs_ofSchedule (hended : ∀ job ∈ jobs,
    (((Work.start d).run simulator results schedule).progress job).outcome?.isSome) :
    (ofSchedule simulator results d jobs skipped schedule).runs.map PairRun.job = jobs := by
  rw [ofSchedule, List.map_filterMap]
  refine Eq.trans (List.filterMap_congr fun job hjob => ?_) List.filterMap_some
  obtain ⟨outcome, houtcome⟩ := Option.isSome_iff_exists.mp (hended job hjob)
  simp [houtcome]

/-- The calls that are reported are those along the schedule. -/
theorem mem_calls_ofSchedule (hended : ∀ job ∈ jobs,
    (((Work.start d).run simulator results schedule).progress job).outcome?.isSome)
    (hschedule : ∀ job ∈ schedule, job ∈ jobs) (call : Job × Disk) :
    call ∈ (ofSchedule simulator results d jobs skipped schedule).calls ↔
      call ∈ (Work.start d).calls simulator results schedule := by
  obtain ⟨job, given⟩ := call
  rw [mem_calls, ← Work.lookup_calls_eq_some]
  constructor
  · rintro ⟨run, hrun, rfl, hgiven⟩
    rw [(mem_runs_ofSchedule.mp hrun).2.2, hgiven]
  · intro hlookup
    have hjob := hschedule job (Work.mem_of_mem_calls (Work.lookup_calls_eq_some.mp hlookup))
    obtain ⟨outcome, houtcome⟩ := Option.isSome_iff_exists.mp (hended job hjob)
    exact ⟨⟨job, some given, outcome⟩, mem_runs_ofSchedule.mpr ⟨hjob, houtcome, hlookup⟩, rfl, rfl⟩

/-- A run that has ended without a call has an old result that cannot be removed. -/
theorem called_ofSchedule
    (hrun : run ∈ (ofSchedule simulator results d jobs skipped schedule).runs) :
    (∃ given, run.given = some given) ∨
      ∃ d e error, Disk.removeIfPresent (run.job.result results) d = (.error error, e) ∧
        run.outcome = .error (.io error) := by
  obtain ⟨-, houtcome, hgiven⟩ := mem_runs_ofSchedule.mp hrun
  have hcalled := @Work.called_run simulator results d schedule run.job
  rw [hgiven] at hcalled
  cases hp : ((Work.start d).run simulator results schedule).progress run.job with
  | published left =>
    rw [hp] at hcalled
    exact .inl hcalled
  | failed fault =>
    rw [hp] at hcalled houtcome
    rcases hcalled with hcalled | ⟨d, e, error, hclear, rfl⟩
    · exact .inl hcalled
    · exact .inr ⟨d, e, error, hclear, (Option.some.inj houtcome).symm⟩
  | _ =>
    rw [hp] at houtcome
    cases houtcome

/-- **Every pair is accounted for, whatever the order of work.** Let the jobs of the directory of
the logs take their steps in the order of any schedule, each job at least three times. Then every
pair that has an allocation log and whose scenario has a flow log is reported once, in the order of
the pairs, as succeeded or as failed, and the scenarios without allocation logs are skipped. The
calls that are reported are those that there were, in another order. -/
theorem ofSchedule_covers (simulator : Simulator) (results : Path) (before : Disk)
    (hschedule : ∀ job ∈ schedule, job ∈ d.jobsAt place logs results)
    (hcount : ∀ job ∈ d.jobsAt place logs results, 3 ≤ schedule.count job) :
    let b := ofSchedule simulator results before (d.jobsAt place logs results)
      (skippedScenarios (d.flowLogsAt place logs) (d.allocationLogsAt place logs)) schedule
    b.Covers logs results (fun s => d.FileAt (s.flowLogName :: place))
        (fun id => d.FileAt (id.allocationLogName :: place)) ∧
      b.calls.Perm ((Work.start before).calls simulator results schedule) := by
  intro b
  have hended : ∀ job ∈ d.jobsAt place logs results,
      (((Work.start before).run simulator results schedule).progress job).outcome?.isSome :=
    fun job hjob => Work.ended_of_count _ (hcount job hjob)
  have hcovers : b.Covers logs results (fun s => d.FileAt (s.flowLogName :: place))
      (fun id => d.FileAt (id.allocationLogName :: place)) :=
    covers_of_jobs (jobs_ofSchedule hended) rfl fun run hrun => called_ofSchedule hrun
  refine ⟨hcovers, (List.perm_ext_iff_of_nodup ?_ ?_).mpr fun call =>
    mem_calls_ofSchedule hended hschedule call⟩
  · refine List.Nodup.of_map (fun call : Job × Disk => call.1.id) ?_
    refine hcovers.calls_increasing.imp fun {a b} hlt heq => ?_
    rw [heq] at hlt
    exact b.lt_irrefl hlt
  · exact (Work.nodup_calls before schedule).of_map

end BatchRun

/-! ## One worker -/

/-- The runs of a batch say of each job which disk its simulator was given. -/
theorem lookup_calls {runs : List PairRun} (hdistinct : runs.Pairwise fun p q => p.job ≠ q.job)
    {run : PairRun} (hrun : run ∈ runs) :
    (runs.flatMap fun run => run.given.toList.map (Prod.mk run.job)).lookup run.job =
      run.given := by
  induction runs with
  | nil => cases hrun
  | cons first runs ih =>
    obtain ⟨hfirst, hdistinct⟩ := List.pairwise_cons.mp hdistinct
    rw [List.flatMap_cons, List.lookup_append]
    rcases List.mem_cons.mp hrun with rfl | hrun
    · have hrest : (runs.flatMap fun run => run.given.toList.map (Prod.mk run.job)).lookup run.job =
          none := by
        refine List.lookup_eq_none_iff.mpr fun call hcall => bne_iff_ne.mpr ?_
        obtain ⟨other, hother, hcall⟩ := List.mem_flatMap.mp hcall
        obtain ⟨given, -, rfl⟩ := List.mem_map.mp hcall
        exact hfirst other hother
      rw [hrest, Option.or_none]
      cases run.given <;> simp
    · have hnone : (first.given.toList.map (Prod.mk first.job)).lookup run.job = none := by
        refine List.lookup_eq_none_iff.mpr fun call hcall => bne_iff_ne.mpr ?_
        obtain ⟨given, -, rfl⟩ := List.mem_map.mp hcall
        exact (hfirst run hrun).symm
      rw [hnone, Option.none_or]
      exact ih hdistinct hrun

/-- **One worker is a schedule.** The batch that runs the pairs one after the other is reported, and
leaves the disk, as the schedule in which each job takes its steps at once. -/
theorem runAll_eq_ofSchedule {allow : Bool} {batch : BatchRun} {after : Disk}
    (hresults : Disk.prepareOutput results allow d = (.ok (), before))
    (hbatch : runAll simulator logs results allow d = (.ok batch, after)) :
    ∃ place, d.find logs = .ok (place, .directory) ∧
      batch = .ofSchedule simulator results before (d.jobsAt place logs results)
        (skippedScenarios (d.flowLogsAt place logs) (d.allocationLogsAt place logs))
        (inTurn (d.jobsAt place logs results)) ∧
      after = ((Work.start before).run simulator results
        (inTurn (d.jobsAt place logs results))).disk := by
  obtain ⟨place, hlogs, hjobs, hskipped, hturns⟩ := turns_of_runAll hresults hbatch
  have hdistinct := BatchRun.distinct_jobs hjobs
  obtain ⟨hdisk, houtcome, hcalls⟩ := @Turns.run_inTurn simulator results (Work.start before)
    batch.runs after hturns hdistinct fun _ _ => rfl
  rw [hjobs] at hdisk houtcome hcalls
  refine ⟨place, hlogs, ?_, hdisk.symm⟩
  obtain ⟨runs, skipped⟩ := batch
  simp only [BatchRun.ofSchedule, BatchRun.mk.injEq]
  refine ⟨?_, hskipped⟩
  rw [← hjobs, List.filterMap_map, hjobs]
  refine (List.filterMap_some.symm.trans (List.filterMap_congr fun run hrun => ?_))
  simp only [Function.comp_apply, houtcome run hrun, hcalls, lookup_calls hdistinct hrun,
    Option.map_some]

end RackTraffic
