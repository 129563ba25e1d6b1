import RackTraffic.Diagram.Element
import RackTraffic.Disk.Output
import RackTraffic.Matrix.Basic

/-!
# Drawing allocations

A diagram is made of an allocation whose racks all exist, on a layout that has racks in its rows.
Only then is the file written, so a diagram that cannot be made leaves the disk alone.
-/

namespace RackTraffic

/-- Why no diagram is drawn. -/
inductive DiagramFault where
  | emptyRows
  /-- The sides of the canvas do not fit in 32 bits, so nothing can be drawn at all. -/
  | beyondLimits
  | malformed (fault : Malformed)
  | io (error : IoError)
  deriving DecidableEq, Repr

def DiagramFault.message : DiagramFault → String
  | .emptyRows => "invalid layout: racks_per_row must be positive"
  | .beyondLimits => "the canvas is too large"
  | .malformed _ => "invalid allocation"
  | .io _ => "IO error"

def checkRacks (rackCount : UInt64) : List AllocatedFlow → Except Malformed Unit
  | [] => .ok ()
  | allocated :: rest => do
    let _ ← allocated.flow.ends rackCount
    checkRacks rackCount rest

/-- The diagram of an allocation over `rackCount` racks. -/
def AllocationLog.diagram (log : AllocationLog) (rackCount : UInt64) (layout : Layout) :
    Except DiagramFault Diagram := do
  if layout.racksPerRow = 0 then throw .emptyRows
  (checkRacks rackCount log.flows).mapError .malformed
  match layout.canvas? rackCount.toNat with
  | none => throw .beyondLimits
  | some (width, height) =>
    return { width, height, elements := Diagram.elementsOf layout rackCount.toNat log.flows }

/-- Draw an allocation into a file. -/
def AllocationLog.draw (log : AllocationLog) (rackCount : UInt64) (layout : Layout) (path : Path) :
    DiskAction DiagramFault Unit := do
  let diagram ← (log.diagram rackCount layout : Except DiagramFault Diagram)
  (Disk.writeAtomic path diagram.svg).mapFailure .io

end RackTraffic
