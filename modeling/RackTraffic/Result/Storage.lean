import RackTraffic.Disk.Basic
import RackTraffic.Result.Basic

/-!
# Results on disk

A result that is not there is a fault of its own, since a simulation may have left none. The
throughput of a missing result counts as zero.
-/

namespace RackTraffic

inductive ResultFault where
  | missing (path : Path)
  | malformed (path : Path) (fault : Malformed)
  | io (error : IoError)
  deriving DecidableEq, Repr

def ResultFault.message : ResultFault → String
  | .missing path => "missing result file " ++ path.text
  | .malformed path _ => "malformed result file " ++ path.text
  | .io error => error.message

def ResultFault.ofIoError (path : Path) : IoError → ResultFault
  | .notFound => .missing path
  | error => .io error

/-- The mean throughput of a run. -/
inductive Throughput where
  | measured (mean : Float)
  | absent

def Throughput.value : Throughput → Float
  | .measured mean => mean
  | .absent => 0.0

def Throughput.isAbsent : Throughput → Bool
  | .measured _ => false
  | .absent => true

namespace Disk

def readResult (d : Disk) (path : Path) : Except ResultFault RunResult := do
  let text ← (d.readText path).mapError (.ofIoError path)
  (RunResult.ofText text).mapError (.malformed path)

/-- The mean throughput in a result. -/
def throughput (d : Disk) (path : Path) : Except ResultFault Throughput :=
  match d.readResult path with
  | .ok result => .ok (.measured result.average)
  | .error (.missing _) => .ok .absent
  | .error fault => .error fault

end Disk

end RackTraffic
