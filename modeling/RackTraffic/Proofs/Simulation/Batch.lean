import RackTraffic.Proofs.Disk.Output
import RackTraffic.Proofs.Simulation.Files
import RackTraffic.Proofs.Simulation.Turn
import RackTraffic.Proofs.Traffic.Listing

/-!
# A batch accounts for every pair

**Theorem (`runAll_accounts`).** If the directory of the logs can be listed and the output directory
can be used, a batch runs each pair that has an allocation log and whose scenario has a flow log,
once and in order, and reports it either as succeeded or as failed. It skips the scenarios that have
a flow log and no allocation log. The simulator decides what becomes of a pair, but not which pairs
are run.

The jobs are made scenario by scenario, from the allocation logs that belong to it. That their pairs
strictly increase (`pairwise_jobsAt`) follows from the order of the two listings: pairs of one
scenario are in the order in which their logs are listed, and pairs of different scenarios in the
order of these.
-/

namespace RackTraffic

variable {simulator : Simulator} {logs results : Path} {allow : Bool} {d d₁ : Disk} {place : Place}

/-! ## The jobs of a directory -/

namespace Disk

/-- The flow logs in the directory at a place, as they are listed. -/
def flowLogsAt (d : Disk) (place : Place) (logs : Path) : List (ScenarioId × Path) :=
  listing ScenarioId.le ScenarioId.ofFlowLogName? logs (d.children place)

/-- The allocation logs in the directory at a place, as they are listed. -/
def allocationLogsAt (d : Disk) (place : Place) (logs : Path) : List (PairId × Path) :=
  listing PairId.le PairId.ofAllocationLogName? logs (d.children place)

/-- The jobs for the logs in the directory at a place, in the order in which they are run. -/
def jobsAt (d : Disk) (place : Place) (logs results : Path) : List Job :=
  (d.flowLogsAt place logs).flatMap (jobsOf results (d.allocationLogsAt place logs))

theorem flowLogs_eq_ok (hlogs : d.find logs = .ok (place, .directory)) :
    d.flowLogs logs = .ok (d.flowLogsAt place logs) := by
  rw [flowLogs, list_eq_ok.mpr ⟨place, hlogs, rfl⟩]
  rfl

theorem allocationLogs_eq_ok (hlogs : d.find logs = .ok (place, .directory)) :
    d.allocationLogs logs = .ok (d.allocationLogsAt place logs) := by
  rw [allocationLogs, list_eq_ok.mpr ⟨place, hlogs, rfl⟩]
  rfl

theorem mem_flowLogsAt {s : ScenarioId} {path : Path} :
    (s, path) ∈ d.flowLogsAt place logs ↔
      d.FileAt (s.flowLogName :: place) ∧ path = logs.join s.flowLogName := by
  rw [flowLogsAt, mem_listing isListable_flowLog.recognise_eq_some, holdsFile_children]

theorem mem_allocationLogsAt {id : PairId} {path : Path} :
    (id, path) ∈ d.allocationLogsAt place logs ↔
      d.FileAt (id.allocationLogName :: place) ∧ path = logs.join id.allocationLogName := by
  rw [allocationLogsAt, mem_listing isListable_allocationLog.recognise_eq_some, holdsFile_children]

end Disk

/-- The job of a pair whose logs are in a directory. -/
def PairId.jobIn (id : PairId) (logs results : Path) : Job :=
  id.job (logs.join id.scenario.flowLogName) (logs.join id.allocationLogName) results

/-- The files of a pair in the output directory. -/
theorem PairId.inDirectory_jobIn (id : PairId) (logs results : Path) :
    (id.jobIn logs results).InDirectory results := by
  constructor <;> simp only [PairId.jobIn, PairId.job]

theorem mem_jobsOf {allocations : List (PairId × Path)} {flow : ScenarioId × Path} {job : Job} :
    job ∈ jobsOf results allocations flow ↔ ∃ id allocationLog,
      (id, allocationLog) ∈ allocations ∧ id.scenario = flow.1 ∧
        job = id.job flow.2 allocationLog results := by
  simp only [jobsOf, List.mem_map, List.mem_filter, decide_eq_true_eq, Prod.exists, and_assoc]
  constructor
  · rintro ⟨id, allocationLog, hmem, hid, rfl⟩
    exact ⟨id, allocationLog, hmem, hid, rfl⟩
  · rintro ⟨id, allocationLog, hmem, hid, rfl⟩
    exact ⟨id, allocationLog, hmem, hid, rfl⟩

/-- The pairs that are run are those that have an allocation log and whose scenario has a flow
log. -/
theorem mem_jobsAt {job : Job} :
    job ∈ d.jobsAt place logs results ↔
      d.FileAt (job.id.allocationLogName :: place) ∧
        d.FileAt (job.id.scenario.flowLogName :: place) ∧ job = job.id.jobIn logs results := by
  rw [Disk.jobsAt, List.mem_flatMap]
  constructor
  · rintro ⟨⟨s, flowLog⟩, hflow, hjob⟩
    obtain ⟨id, allocationLog, hallocation, rfl, rfl⟩ := mem_jobsOf.mp hjob
    obtain ⟨hflowFile, rfl⟩ := Disk.mem_flowLogsAt.mp hflow
    obtain ⟨hallocationFile, rfl⟩ := Disk.mem_allocationLogsAt.mp hallocation
    exact ⟨hallocationFile, hflowFile, rfl⟩
  · rintro ⟨hallocation, hflow, hjob⟩
    exact ⟨_, Disk.mem_flowLogsAt.mpr ⟨hflow, rfl⟩,
      mem_jobsOf.mpr ⟨job.id, _, Disk.mem_allocationLogsAt.mpr ⟨hallocation, rfl⟩, rfl, hjob⟩⟩

theorem pairwise_jobsAt (d : Disk) (place : Place) (logs results : Path) :
    (d.jobsAt place logs results).Pairwise fun a b => a.id < b.id := by
  rw [Disk.jobsAt, List.pairwise_flatMap]
  constructor
  · intro flow _
    rw [jobsOf, List.pairwise_map]
    exact (allocationLogs_increasing d place logs).filter _
  · refine (flowLogs_increasing d place logs).imp fun {f g} hlt a ha b hb => ?_
    obtain ⟨id, _, -, hid, rfl⟩ := mem_jobsOf.mp ha
    obtain ⟨id', _, -, hid', rfl⟩ := mem_jobsOf.mp hb
    refine .inl ?_
    show id.scenario < id'.scenario
    rwa [hid, hid']

theorem mem_skippedScenarios {s : ScenarioId} :
    s ∈ skippedScenarios (d.flowLogsAt place logs) (d.allocationLogsAt place logs) ↔
      d.FileAt (s.flowLogName :: place) ∧
        ∀ id : PairId, id.scenario = s → ¬ d.FileAt (id.allocationLogName :: place) := by
  simp only [skippedScenarios, List.mem_filter, List.mem_map, Prod.exists, exists_and_right,
    exists_eq_right, Disk.mem_flowLogsAt, Bool.not_eq_true', List.any_eq_false, decide_eq_true_eq,
    Prod.forall, Disk.mem_allocationLogsAt]
  constructor
  · rintro ⟨hflow, hnone⟩
    exact ⟨hflow, fun id hid hfile => hnone id _ ⟨hfile, rfl⟩ hid⟩
  · rintro ⟨hflow, hnone⟩
    exact ⟨hflow, fun id _ hfile hid => hnone id hid hfile.1⟩

theorem skippedScenarios_increasing (d : Disk) (place : Place) (logs : Path) :
    (skippedScenarios (d.flowLogsAt place logs) (d.allocationLogsAt place logs)).Pairwise
      (· < ·) := by
  refine List.Pairwise.filter _ (List.pairwise_map.mpr ?_)
  exact flowLogs_increasing d place logs

/-! ## Outcomes -/

namespace BatchRun

variable {b : BatchRun}

theorem mem_succeeded {id : PairId} :
    id ∈ b.succeeded ↔ ∃ run ∈ b.runs, run.job.id = id ∧ run.outcome = .ok () := by
  rw [succeeded, List.mem_filterMap]
  refine exists_congr fun run => and_congr_right fun _ => ?_
  cases h : run.outcome <;> simp

theorem mem_failed {id : PairId} {fault : SimulationFault} :
    (id, fault) ∈ b.failed ↔ ∃ run ∈ b.runs, run.job.id = id ∧ run.outcome = .error fault := by
  rw [failed, List.mem_filterMap]
  refine exists_congr fun run => and_congr_right fun _ => ?_
  cases h : run.outcome <;> simp

theorem mem_failed_ids {id : PairId} :
    id ∈ b.failed.map Prod.fst ↔
      ∃ run ∈ b.runs, run.job.id = id ∧ ∃ fault, run.outcome = .error fault := by
  simp only [List.mem_map, Prod.exists, exists_and_right, exists_eq_right, mem_failed]
  constructor
  · rintro ⟨fault, run, hmem, hid, houtcome⟩
    exact ⟨run, hmem, hid, fault, houtcome⟩
  · rintro ⟨run, hmem, hid, fault, houtcome⟩
    exact ⟨fault, run, hmem, hid, houtcome⟩

/-- Every run is reported. -/
theorem reported {id : PairId} :
    id ∈ b.succeeded ∨ id ∈ b.failed.map Prod.fst ↔ ∃ run ∈ b.runs, run.job.id = id := by
  rw [mem_succeeded, mem_failed_ids]
  constructor
  · rintro (⟨run, hmem, hid, -⟩ | ⟨run, hmem, hid, -⟩)
    all_goals exact ⟨run, hmem, hid⟩
  · rintro ⟨run, hmem, hid⟩
    cases houtcome : run.outcome with
    | ok u => exact .inl ⟨run, hmem, hid, houtcome⟩
    | error fault => exact .inr ⟨run, hmem, hid, fault, houtcome⟩

/-- The calls of the simulator, each with the disk that it was given. -/
def calls (b : BatchRun) : List (Job × Disk) :=
  b.runs.filterMap fun run => run.given.map fun given => (run.job, given)

theorem mem_calls {job : Job} {given : Disk} :
    (job, given) ∈ b.calls ↔ ∃ run ∈ b.runs, run.job = job ∧ run.given = some given := by
  rw [calls, List.mem_filterMap]
  refine exists_congr fun run => and_congr_right fun _ => ?_
  cases h : run.given <;> simp

section

variable (hruns : b.runs.Pairwise fun p q => p.job.id < q.job.id)
include hruns

theorem succeeded_increasing : b.succeeded.Pairwise (· < ·) := by
  rw [succeeded, List.pairwise_filterMap]
  refine hruns.imp fun {p q} hlt x hx y hy => ?_
  split at hx <;> cases hx
  split at hy <;> cases hy
  exact hlt

theorem failed_increasing : (b.failed.map Prod.fst).Pairwise (· < ·) := by
  rw [List.pairwise_map, failed, List.pairwise_filterMap]
  refine hruns.imp fun {p q} hlt x hx y hy => ?_
  split at hx <;> cases hx
  split at hy <;> cases hy
  exact hlt

theorem calls_increasing : (b.calls.map fun call => call.1.id).Pairwise (· < ·) := by
  rw [List.pairwise_map, calls, List.pairwise_filterMap]
  refine hruns.imp fun {p q} hlt x hx y hy => ?_
  obtain ⟨_, -, rfl⟩ := Option.map_eq_some_iff.mp hx
  obtain ⟨_, -, rfl⟩ := Option.map_eq_some_iff.mp hy
  exact hlt

/-- A pair has only one run. -/
theorem run_unique {p q : PairRun} (hp : p ∈ b.runs) (hq : q ∈ b.runs)
    (h : p.job.id = q.job.id) : p = q := by
  have hne : ∀ {p q : PairRun}, p.job.id < q.job.id → p.job.id ≠ q.job.id := by
    intro p q hlt heq
    rw [heq] at hlt
    exact q.job.id.lt_irrefl hlt
  have hunique : ∀ ⦃p⦄, p ∈ b.runs → ∀ ⦃q⦄, q ∈ b.runs → p.job.id = q.job.id → p = q :=
    List.Pairwise.forall_of_forall_of_flip (fun _ _ _ => rfl)
      (hruns.imp fun {p q} hlt heq => absurd heq (hne hlt))
      (hruns.imp fun {p q} hlt heq => absurd heq.symm (hne hlt))
  exact hunique hp hq h

theorem disjoint : ∀ id ∈ b.succeeded, id ∉ b.failed.map Prod.fst := by
  intro id hsucceeded hfailed
  obtain ⟨p, hp, hid, hok⟩ := mem_succeeded.mp hsucceeded
  obtain ⟨q, hq, hid', fault, herror⟩ := mem_failed_ids.mp hfailed
  rw [run_unique hruns hp hq (hid.trans hid'.symm), herror] at hok
  cases hok

end

/-! ## Accounting -/

/-- A batch that reports every pair, where `flow` tells which scenarios have a flow log and
`allocation` which pairs have an allocation log. -/
structure Covers (logs results : Path) (flow : ScenarioId → Prop) (allocation : PairId → Prop)
    (b : BatchRun) : Prop where
  succeeded_increasing : b.succeeded.Pairwise (· < ·)
  failed_increasing : (b.failed.map Prod.fst).Pairwise (· < ·)
  disjoint : ∀ id ∈ b.succeeded, id ∉ b.failed.map Prod.fst
  complete : ∀ id, id ∈ b.succeeded ∨ id ∈ b.failed.map Prod.fst ↔
    allocation id ∧ flow id.scenario
  skipped_increasing : b.skipped.Pairwise (· < ·)
  skipped : ∀ s, s ∈ b.skipped ↔ flow s ∧ ∀ id : PairId, id.scenario = s → ¬ allocation id
  /-- No pair is simulated twice. -/
  calls_increasing : (b.calls.map fun call => call.1.id).Pairwise (· < ·)
  /-- A pair is simulated with its own logs. -/
  calls_own : ∀ call ∈ b.calls, allocation call.1.id ∧ flow call.1.id.scenario ∧
    call.1 = call.1.id.jobIn logs results
  /-- A pair that is not simulated has an old result that cannot be removed. -/
  called : ∀ id, allocation id → flow id.scenario →
    (∃ given, (id.jobIn logs results, given) ∈ b.calls) ∨
      ∃ d e error, Disk.removeIfPresent (results.join id.resultName) d = (.error error, e) ∧
        (id, SimulationFault.io error) ∈ b.failed

/-- A batch that has given every pair its turn. The turns lead from one disk to another, and what
becomes of a pair is decided in its turn. -/
structure Accounts (simulator : Simulator) (logs results : Path) (flow : ScenarioId → Prop)
    (allocation : PairId → Prop) (before : Disk) (b : BatchRun) (after : Disk) : Prop
    extends b.Covers logs results flow allocation where
  turns : Turns simulator results before b.runs after

/-- The jobs of a directory are run in the order of their pairs. -/
theorem pairwise_runs (hjobs : b.runs.map PairRun.job = d.jobsAt place logs results) :
    b.runs.Pairwise fun p q => p.job.id < q.job.id := by
  have h := pairwise_jobsAt d place logs results
  rwa [← hjobs, List.pairwise_map] at h

/-- No pair is run twice. -/
theorem distinct_runs (hjobs : b.runs.map PairRun.job = d.jobsAt place logs results) :
    b.runs.Pairwise fun p q => p.job.id ≠ q.job.id := by
  refine (pairwise_runs hjobs).imp fun {p q} hlt heq => ?_
  rw [heq] at hlt
  exact q.job.id.lt_irrefl hlt

theorem distinct_jobs (hjobs : b.runs.map PairRun.job = d.jobsAt place logs results) :
    b.runs.Pairwise fun p q => p.job ≠ q.job :=
  (distinct_runs hjobs).imp fun hne heq => hne (congrArg Job.id heq)

/-- Only pairs with both logs are run, and they are run with these. -/
theorem job_eq_jobIn (hjobs : b.runs.map PairRun.job = d.jobsAt place logs results) {run : PairRun}
    (hrun : run ∈ b.runs) :
    d.FileAt (run.job.id.allocationLogName :: place) ∧
      d.FileAt (run.job.id.scenario.flowLogName :: place) ∧
        run.job = run.job.id.jobIn logs results := by
  rw [← mem_jobsAt, ← hjobs]
  exact List.mem_map_of_mem hrun

/-- Every pair with both logs is run. -/
theorem exists_run (hjobs : b.runs.map PairRun.job = d.jobsAt place logs results) {id : PairId}
    (hallocation : d.FileAt (id.allocationLogName :: place))
    (hflow : d.FileAt (id.scenario.flowLogName :: place)) :
    ∃ run ∈ b.runs, run.job = id.jobIn logs results := by
  have hmem : id.jobIn logs results ∈ d.jobsAt place logs results :=
    mem_jobsAt.mpr ⟨hallocation, hflow, rfl⟩
  rw [← hjobs] at hmem
  exact List.mem_map.mp hmem

/-- If the runs are those of the jobs of a directory, the batch covers its pairs. -/
theorem covers_of_jobs (hjobs : b.runs.map PairRun.job = d.jobsAt place logs results)
    (hskipped : b.skipped =
      skippedScenarios (d.flowLogsAt place logs) (d.allocationLogsAt place logs))
    (hcalled : ∀ run ∈ b.runs, (∃ given, run.given = some given) ∨
      ∃ d e error, Disk.removeIfPresent (run.job.result results) d = (.error error, e) ∧
        run.outcome = .error (.io error)) :
    b.Covers logs results (fun s => d.FileAt (s.flowLogName :: place))
      (fun id => d.FileAt (id.allocationLogName :: place)) := by
  have hruns := pairwise_runs hjobs
  refine {
    succeeded_increasing := succeeded_increasing hruns
    failed_increasing := failed_increasing hruns
    disjoint := disjoint hruns
    complete := fun id => ?_
    skipped_increasing := ?_
    skipped := fun s => ?_
    calls_increasing := calls_increasing hruns
    calls_own := ?_
    called := fun id hallocation hflow => ?_ }
  case refine_1 =>
    rw [reported]
    constructor
    · rintro ⟨run, hmem, rfl⟩
      obtain ⟨hallocation, hflow, -⟩ := job_eq_jobIn hjobs hmem
      exact ⟨hallocation, hflow⟩
    · rintro ⟨hallocation, hflow⟩
      obtain ⟨run, hmem, hrun⟩ := exists_run hjobs hallocation hflow
      exact ⟨run, hmem, by rw [hrun]; rfl⟩
  case refine_2 =>
    rw [hskipped]
    exact skippedScenarios_increasing d place logs
  case refine_3 =>
    rw [hskipped]
    exact mem_skippedScenarios
  case refine_4 =>
    rintro ⟨job, given⟩ hcall
    obtain ⟨run, hmem, rfl, -⟩ := mem_calls.mp hcall
    exact job_eq_jobIn hjobs hmem
  case refine_5 =>
    obtain ⟨run, hmem, hrun⟩ := exists_run hjobs hallocation hflow
    rcases hcalled run hmem with ⟨given, hgiven⟩ | ⟨before, after, error, hclear, houtcome⟩
    · exact .inl ⟨given, mem_calls.mpr ⟨run, hmem, hrun, hgiven⟩⟩
    · rw [hrun] at hclear
      exact .inr ⟨before, after, error, hclear,
        mem_failed.mpr ⟨run, hmem, by rw [hrun]; rfl, houtcome⟩⟩

/-- If the runs are the turns of the jobs of a directory, the batch accounts for its pairs. -/
theorem accounts_of_turns {before after : Disk}
    (hjobs : b.runs.map PairRun.job = d.jobsAt place logs results)
    (hskipped : b.skipped =
      skippedScenarios (d.flowLogsAt place logs) (d.allocationLogsAt place logs))
    (hturns : Turns simulator results before b.runs after) :
    b.Accounts simulator logs results (fun s => d.FileAt (s.flowLogName :: place))
      (fun id => d.FileAt (id.allocationLogName :: place)) before after := by
  refine ⟨covers_of_jobs hjobs hskipped fun run hmem => ?_, hturns⟩
  obtain ⟨before, after, hturn⟩ := hturns.exists_turn hmem
  refine hturn.called_or_refused.imp_right ?_
  rintro ⟨error, hclear, houtcome⟩
  exact ⟨before, after, error, hclear, houtcome⟩

end BatchRun

/-! ## The batch of a directory -/

/-- A batch runs the jobs of the directory on the disk with the output directory. -/
theorem runAll_eq (hlogs : d.find logs = .ok (place, .directory))
    (hresults : Disk.prepareOutput results allow d = (.ok (), d₁)) {runs : List PairRun} {e : Disk}
    (hrun : ((d.jobsAt place logs results).mapM (Job.run simulator results) :
      StateM Disk (List PairRun)) d₁ = (runs, e)) :
    runAll simulator logs results allow d =
      (.ok ⟨runs, skippedScenarios (d.flowLogsAt place logs) (d.allocationLogsAt place logs)⟩,
        e) := by
  have hlift : (liftM ((d.jobsAt place logs results).mapM (Job.run simulator results) :
      StateM Disk (List PairRun)) : DiskAction WorkFault (List PairRun)) d₁ = (.ok runs, e) := by
    rw [DiskAction.lift_apply, hrun]
  rw [Disk.jobsAt] at hlift
  simp [runAll, DiskAction.look, DiskAction.mapFailure, DiskAction.bind_apply,
    DiskAction.pure_apply, Disk.flowLogs_eq_ok hlogs, Disk.allocationLogs_eq_ok hlogs, hresults,
    Except.mapError, hlift, -bind_pure_comp]

/-- A batch is run only if the logs can be listed. -/
theorem find_of_runAll {b : BatchRun} {e : Disk}
    (h : runAll simulator logs results allow d = (.ok b, e)) :
    ∃ place, d.find logs = .ok (place, .directory) := by
  rw [runAll, DiskAction.bind_apply] at h
  cases hlist : d.list logs with
  | error error =>
    simp only [DiskAction.look, Disk.flowLogs, hlist, Except.map, Except.mapError] at h
    cases h
  | ok entries =>
    obtain ⟨place, hfind, -⟩ := Disk.list_eq_ok.mp hlist
    exact ⟨place, hfind⟩

/-- The runs of a batch are the turns of the jobs of the directory, and the scenarios without jobs
are skipped. -/
theorem turns_of_runAll {b : BatchRun} {e : Disk}
    (hresults : Disk.prepareOutput results allow d = (.ok (), d₁))
    (h : runAll simulator logs results allow d = (.ok b, e)) :
    ∃ place, d.find logs = .ok (place, .directory) ∧
      b.runs.map PairRun.job = d.jobsAt place logs results ∧
        b.skipped =
            skippedScenarios (d.flowLogsAt place logs) (d.allocationLogsAt place logs) ∧
          Turns simulator results d₁ b.runs e := by
  obtain ⟨place, hlogs⟩ := find_of_runAll h
  obtain ⟨runs, e', hrun, hjobs, hturns⟩ :=
    @turns_mapM simulator results (d.jobsAt place logs results) d₁
  rw [runAll_eq hlogs hresults hrun] at h
  cases h
  exact ⟨place, hlogs, hjobs, rfl, hturns⟩

/-- **Every pair is accounted for.** If the directory of the logs can be listed and the output
directory can be used, every pair that has an allocation log and whose scenario has a flow log is
run once, in the order of the pairs, and is reported as succeeded or as failed. The scenarios that
have a flow log and no allocation log are skipped. -/
theorem runAll_accounts {entries : List (String × Entry)} (hlist : d.list logs = .ok entries)
    (hresults : Disk.prepareOutput results allow d = (.ok (), d₁)) :
    ∃ place b e, d.find logs = .ok (place, .directory) ∧
      runAll simulator logs results allow d = (.ok b, e) ∧
      b.Accounts simulator logs results (fun s => d.FileAt (s.flowLogName :: place))
        (fun id => d.FileAt (id.allocationLogName :: place)) d₁ e := by
  obtain ⟨place, hlogs, -⟩ := Disk.list_eq_ok.mp hlist
  obtain ⟨runs, e, hrun, hjobs, hturns⟩ :=
    @turns_mapM simulator results (d.jobsAt place logs results) d₁
  exact ⟨place, ⟨runs, _⟩, e, hlogs, runAll_eq hlogs hresults hrun,
    BatchRun.accounts_of_turns hjobs rfl hturns⟩

/-- A simulator whose results are copies of the allocation logs. -/
def copying : Simulator := fun job =>
  DiskAction.change fun d =>
    ((d.read job.allocationLog).bind fun contents => d.write job.output contents).mapError .io

/-- A disk with two scenarios, of which one has allocation logs, an allocation log without a flow
log, and a directory for results. -/
def twoScenarios : Disk :=
  ([(["l"], .directory), (["r"], .directory),
    (["flows__0.dat", "l"], .file .empty false), (["flows__1.dat", "l"], .file .empty false),
    (["alloc__0_0.dat", "l"], .file .empty false), (["alloc__0_1.dat", "l"], .file .empty false),
    (["alloc__2_0.dat", "l"], .file .empty false)] : List (Place × Entry)).foldl
    (fun d (place, entry) => d.put place entry) ⟨∅, []⟩

theorem find_twoScenarios : twoScenarios.find ⟨"l"⟩ = .ok (["l"], .directory) :=
  toOption_eq_some_iff.mp (by decide +kernel)

theorem runAll_accounts_twoScenarios : ∃ place b e,
    runAll copying ⟨"l"⟩ ⟨"r"⟩ true twoScenarios = (.ok b, e) ∧
      b.Accounts copying ⟨"l"⟩ ⟨"r"⟩ (fun s => twoScenarios.FileAt (s.flowLogName :: place))
        (fun id => twoScenarios.FileAt (id.allocationLogName :: place)) twoScenarios e := by
  have hlist := Disk.list_eq_ok.mpr ⟨["l"], find_twoScenarios, rfl⟩
  have hresults : Disk.prepareOutput ⟨"r"⟩ true twoScenarios = (.ok (), twoScenarios) :=
    Disk.prepareOutput_of_isDirectory (by decide +kernel)
  obtain ⟨place, b, e, -, hrun, haccounts⟩ :=
    @runAll_accounts copying ⟨"l"⟩ ⟨"r"⟩ true twoScenarios twoScenarios _ hlist hresults
  exact ⟨place, b, e, hrun, haccounts⟩

end RackTraffic
