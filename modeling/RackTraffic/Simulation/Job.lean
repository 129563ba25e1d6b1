import RackTraffic.Disk.Basic
import RackTraffic.Simulation.Duration
import RackTraffic.Text.Quoted
import RackTraffic.Traffic.Name

/-!
# Simulation jobs

A job is to simulate one variant of a scenario. It names the two logs that the simulator reads, the
file that its result goes to and the file that collects what it prints.

A simulator is anything that carries out jobs on a disk. If it succeeds, the result is in the file
that the job names. It may fail for one of the reasons listed here.
-/

namespace RackTraffic

/-- A variant to simulate and the files to use. -/
structure Job where
  id : PairId
  flowLog : Path
  allocationLog : Path
  output : Path
  console : Path
  deriving DecidableEq, Repr

inductive SimulationFault where
  | notStarted (error : IoError)
  /-- The simulator ended with an exit code other than 0, or was killed and has none. -/
  | failed (code : Option Int)
  /-- An argument would not reach the simulator as it is. -/
  | unfitArgument (argument : String)
  | outOfTime (limit : Duration)
  | noOutput (path : Path)
  | io (error : IoError)
  deriving DecidableEq, Repr

def exitCodeText : Option Int → String
  | none => "None"
  | some code => s!"Some({code})"

def SimulationFault.message : SimulationFault → String
  | .notStarted _ => "failed to launch simulator"
  | .failed code => "simulator exited unsuccessfully (exit code " ++ exitCodeText code ++ ")"
  | .unfitArgument argument => "cannot pass argument " ++ Text.quote argument ++ " to the simulator"
  | .outOfTime limit => "simulator timed out after " ++ limit.text
  | .noOutput path => "simulator wrote no result to " ++ path.text
  | .io error => error.message

/-- The texts of a fault and of what is behind it. -/
def SimulationFault.reasons (fault : SimulationFault) : List String :=
  fault.message ::
    match fault with
    | .notStarted error => [error.message]
    | _ => []

/-- Something that carries out jobs. -/
abbrev Simulator := Job → DiskAction SimulationFault Unit

end RackTraffic
