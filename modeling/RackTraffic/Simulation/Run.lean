import RackTraffic.Simulation.Job

/-!
# Running one pair

A result is only ever seen under its name if the simulation that made it has succeeded. To that end
a pair is run in three steps:

1. *clear*: remove the result of an earlier batch;
2. *simulate*: the simulator writes into a partial file;
3. *settle*: after a success rename the partial file to the result; after a failure remove it.

The first step that fails ends the run. If a failed simulation cannot be cleaned up, that is the
failure which is reported.
-/

namespace RackTraffic

def Disk.removeIfPresent (path : Path) : DiskAction IoError Unit := fun d =>
  match d.removeFile path with
  | .ok d' => (.ok (), d')
  | .error .notFound => (.ok (), d)
  | .error error => (.error error, d)

structure PairRun where
  job : Job
  /-- The disk that the simulator was given, if it was called. -/
  given : Option Disk
  outcome : Except SimulationFault Unit

namespace Job

def result (job : Job) (directory : Path) : Path := directory.join job.id.resultName

def clear (job : Job) (directory : Path) : DiskAction SimulationFault Unit :=
  (Disk.removeIfPresent (job.result directory)).mapFailure .io

/-- Publish what a simulation has written, or clean up after it. -/
def settle (job : Job) (directory : Path) :
    Except SimulationFault Unit → DiskAction SimulationFault Unit
  | .ok () => DiskAction.change fun d => (d.rename job.output (job.result directory)).mapError .io
  | .error fault => do
    (Disk.removeIfPresent job.output).mapFailure .io
    throw fault

/-- Run a pair. -/
def run (simulator : Simulator) (directory : Path) (job : Job) : StateM Disk PairRun := do
  match ← job.clear directory with
  | .error fault => return { job, given := none, outcome := .error fault }
  | .ok () =>
    let given ← get
    let made ← simulator job
    let outcome ← job.settle directory made
    return { job, given := some given, outcome }

end Job

end RackTraffic
