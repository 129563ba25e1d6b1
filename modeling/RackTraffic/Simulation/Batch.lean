import RackTraffic.Simulation.Run
import RackTraffic.Traffic.Listing
import RackTraffic.WorkFault

/-!
# Running all pairs of a directory

Every flow log of a directory is simulated with each of its allocation logs, and the results go to
an output directory. A scenario that has no allocation log is skipped, and an allocation log without
a flow log is left alone. A failed run does not stop the others: every pair gets its run, in the
order of the pairs.
-/

namespace RackTraffic

/-- The runs of a batch, and the scenarios that have no allocation log. -/
structure BatchRun where
  runs : List PairRun
  skipped : List ScenarioId

def BatchRun.succeeded (b : BatchRun) : List PairId :=
  b.runs.filterMap fun run =>
    match run.outcome with
    | .ok () => some run.job.id
    | .error _ => none

def BatchRun.failed (b : BatchRun) : List (PairId × SimulationFault) :=
  b.runs.filterMap fun run =>
    match run.outcome with
    | .ok () => none
    | .error fault => some (run.job.id, fault)

def PairId.job (id : PairId) (flowLog allocationLog directory : Path) : Job where
  id := id
  flowLog := flowLog
  allocationLog := allocationLog
  output := directory.join id.partialName
  console := directory.join id.consoleName

def jobsOf (directory : Path) (allocations : List (PairId × Path))
    (flow : ScenarioId × Path) : List Job :=
  (allocations.filter fun (id, _) => id.scenario = flow.1).map fun (id, allocationLog) =>
    id.job flow.2 allocationLog directory

/-- The scenarios that have no allocation log. -/
def skippedScenarios (flows : List (ScenarioId × Path)) (allocations : List (PairId × Path)) :
    List ScenarioId :=
  (flows.map Prod.fst).filter fun s => !allocations.any fun (id, _) => id.scenario = s

/-- Run every pair of the logs in `logs`, with results in `results`. -/
def runAll (simulator : Simulator) (logs results : Path) (allowExisting : Bool) :
    DiskAction WorkFault BatchRun := do
  let flows ← DiskAction.look fun d => (d.flowLogs logs).mapError .io
  let allocations ← DiskAction.look fun d => (d.allocationLogs logs).mapError .io
  (Disk.prepareOutput results allowExisting).mapFailure .output
  let runs ← ((flows.flatMap (jobsOf results allocations)).mapM (Job.run simulator results) :
    StateM Disk (List PairRun))
  return { runs, skipped := skippedScenarios flows allocations }

end RackTraffic
