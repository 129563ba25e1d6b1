import RackTraffic.Disk.Output
import RackTraffic.Traffic.Name

/-!
# Logs on disk

A log is written into a directory under the name that says whose it is, and when it is read, the
name says whose it is. A file whose name is not that of a log is refused before it is opened.
-/

namespace RackTraffic

/-- Why a log cannot be read. -/
inductive LogFault where
  | unrecognizedName (path : Path)
  | malformed (path : Path) (fault : Malformed)
  | io (error : IoError)
  deriving DecidableEq, Repr

def LogFault.message : LogFault → String
  | .unrecognizedName path => "unrecognized log file name: " ++ path.text
  | .malformed path _ => "malformed log file " ++ path.text
  | .io error => error.message

namespace Disk

/-- Read a log whose name is recognised and whose text is read as given. -/
def readLog {κ α : Type} (d : Disk) (recognise : String → Option κ)
    (ofText : κ → String → Except Malformed α) (path : Path) : Except LogFault α :=
  match path.fileName?.bind recognise with
  | none => .error (.unrecognizedName path)
  | some key => do
    let text ← (d.readText path).mapError .io
    (ofText key text).mapError (.malformed path)

def readFlowLog (d : Disk) (path : Path) : Except LogFault FlowLog :=
  d.readLog ScenarioId.ofFlowLogName? FlowLog.ofText path

def readAllocationLog (d : Disk) (path : Path) : Except LogFault AllocationLog :=
  d.readLog PairId.ofAllocationLogName? (fun id => AllocationLog.ofText id.scenario id.variant) path

end Disk

def FlowLog.pathIn (log : FlowLog) (directory : Path) : Path :=
  directory.join log.scenario.flowLogName

def AllocationLog.pathIn (log : AllocationLog) (directory : Path) : Path :=
  directory.join log.id.allocationLogName

def FlowLog.store (log : FlowLog) (directory : Path) : DiskAction IoError Path := do
  Disk.writeAtomic (log.pathIn directory) log.text
  return log.pathIn directory

def AllocationLog.store (log : AllocationLog) (directory : Path) : DiskAction IoError Path := do
  Disk.writeAtomic (log.pathIn directory) log.text
  return log.pathIn directory

end RackTraffic
