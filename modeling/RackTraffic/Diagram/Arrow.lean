import RackTraffic.Diagram.Distance
import RackTraffic.Diagram.Layout

/-!
# Arrows

A flow is drawn as an arrow from the edge of one rack's dot to the edge of another's. The arrow is
moved to the right of its direction, so that opposite flows between the same racks are drawn side
by side.

The geometry is done in floats and its points are rounded to pixels, halves away from zero. Between
racks at the same point there is no direction; a coordinate that is then not a number is drawn
as 0.
-/

namespace RackTraffic

structure Pixel where
  x : Int32
  y : Int32
  deriving DecidableEq, Repr

/-- A shaft and a triangle at its end. -/
structure Arrow where
  tail : Pixel
  tip : Pixel
  left : Pixel
  right : Pixel
  deriving DecidableEq, Repr

namespace Arrow

def headLength : Float := 10.0

def headHalfWidth : Float := 4.0

/-- How far an arrow is moved to its right. -/
def sideOffset : Float := 3.0

def pixel (x y : Float) : Pixel := ⟨x.round.toInt32, y.round.toInt32⟩

/-- The arrow between the dots of two racks. -/
def between (layout : Layout) (source destination : Nat) : Arrow :=
  let (start, goal) := (layout.point source, layout.point destination)
  let (x₀, y₀) := (Float.ofNat start.1, Float.ofNat start.2)
  let (x₁, y₁) := (Float.ofNat goal.1, Float.ofNat goal.2)
  let length := distance start goal
  let (ux, uy) := ((x₁ - x₀) / length, (y₁ - y₀) / length)
  let (nx, ny) := (-uy, ux)
  let gap := Float.ofNat layout.radius.toNat
  let (ox, oy) := (nx * sideOffset, ny * sideOffset)
  let (tailX, tailY) := (x₀ + ux * gap + ox, y₀ + uy * gap + oy)
  let (tipX, tipY) := (x₁ - ux * gap + ox, y₁ - uy * gap + oy)
  let (baseX, baseY) := (tipX - ux * headLength, tipY - uy * headLength)
  { tail := pixel tailX tailY
    tip := pixel tipX tipY
    left := pixel (baseX + nx * headHalfWidth) (baseY + ny * headHalfWidth)
    right := pixel (baseX - nx * headHalfWidth) (baseY - ny * headHalfWidth) }

end Arrow

end RackTraffic
