import RackTraffic.Traffic.Flow

/-!
# Laying out racks

Racks stand on a grid, row by row in the order of their indices. The canvas fits the grid exactly:
there is a margin on every side and nothing else. All of this is integer arithmetic and exact.
-/

namespace RackTraffic

/-- The measures of a diagram, in pixels. -/
structure Layout where
  racksPerRow : UInt64 := 4
  spacing : UInt32 := 120
  margin : UInt32 := 60
  radius : UInt32 := 10
  deriving DecidableEq, Repr

namespace Layout

def point (layout : Layout) (rack : Nat) : Nat × Nat :=
  ( layout.margin.toNat + rack % layout.racksPerRow.toNat * layout.spacing.toNat,
    layout.margin.toNat + rack / layout.racksPerRow.toNat * layout.spacing.toNat )

/-- The number of columns that are in use. There is always one. -/
def columns (layout : Layout) (rackCount : Nat) : Nat :=
  min (max rackCount 1) layout.racksPerRow.toNat

def rows (layout : Layout) (rackCount : Nat) : Nat :=
  (max rackCount 1 + layout.racksPerRow.toNat - 1) / layout.racksPerRow.toNat

/-- The length of a side of the canvas along which `count` racks stand. -/
def side (layout : Layout) (count : Nat) : Nat :=
  2 * layout.margin.toNat + (count - 1) * layout.spacing.toNat

/-- A number that counts racks in 32 bits: higher bits are lost, and there must be a rack left. -/
def narrow? (count : Nat) : Option Nat :=
  let kept := count % UInt32.size
  if kept = 0 then none else some kept

def side? (layout : Layout) (count : Nat) : Option UInt32 := do
  let length := layout.side (← narrow? count)
  if length < UInt32.size then some (UInt32.ofNat length) else none

/-- The width and height of the canvas, if both fit in 32 bits. -/
def canvas? (layout : Layout) (rackCount : Nat) : Option (UInt32 × UInt32) := do
  return (← layout.side? (layout.columns rackCount), ← layout.side? (layout.rows rackCount))

end Layout

end RackTraffic
