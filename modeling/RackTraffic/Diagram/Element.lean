import RackTraffic.Diagram.Arrow
import RackTraffic.Traffic.Log

/-!
# Diagrams

A diagram is a list of elements, drawn one over the other: for each flow that leads to another rack
a shaft and a head, in the style of its link, and then a dot for every rack. Wireless flows are
thick and blue, wired ones thin and grey, and flows of any other link red.

Written as SVG, every element takes one line, after a line that opens the drawing and one for the
background. Points beyond the canvas are drawn at its edge.

Elements are drawn with signed numbers of 32 bits. A side of the canvas that is too long for that
wraps around to a negative number; then every point lies beyond it.
-/

namespace RackTraffic

structure Stroke where
  colour : String
  width : Nat
  deriving DecidableEq, Repr

/-- The stroke of the flows of a link. -/
def Link.stroke : Link → Stroke
  | .wireless => ⟨"#0000FF", 3⟩
  | .wired => ⟨"#969696", 1⟩
  | .unknown _ => ⟨"#FF0000", 2⟩

inductive Element where
  | shaft (stroke : Stroke) (tail tip : Pixel)
  | head (colour : String) (tip left right : Pixel)
  | dot (centre : Pixel) (radius : UInt32)
  deriving DecidableEq, Repr

structure Diagram where
  width : UInt32
  height : UInt32
  elements : List Element
  deriving DecidableEq, Repr

namespace Diagram

/-- The elements of a flow: none if it leads to its own rack. -/
def flowElements (layout : Layout) (allocated : AllocatedFlow) : List Element :=
  let flow := allocated.flow
  if flow.source = flow.destination then []
  else
    let arrow := Arrow.between layout flow.source.index.toNat flow.destination.index.toNat
    let stroke := allocated.link.stroke
    [ .shaft stroke arrow.tail arrow.tip,
      .head stroke.colour arrow.tip arrow.left arrow.right ]

def rackElement (layout : Layout) (rack : Nat) : Element :=
  let (x, y) := layout.point rack
  .dot (Arrow.pixel (Float.ofNat x) (Float.ofNat y)) layout.radius

/-- The elements of an allocation. -/
def elementsOf (layout : Layout) (rackCount : Nat) (flows : List AllocatedFlow) : List Element :=
  flows.flatMap (flowElements layout) ++ (List.range rackCount).map (rackElement layout)

/-! ## SVG -/

/-- The length of a side as elements are drawn with it. -/
def reach (side : UInt32) : Int := side.toInt32.toInt

/-- A coordinate moved into the canvas. -/
def clamp (v : Int32) (side : UInt32) : Nat := (min v.toInt (reach side)).toNat

def pointText (d : Diagram) (p : Pixel) : String :=
  s!"{clamp p.x d.width},{clamp p.y d.height}"

def elementLine (d : Diagram) : Element → String
  | .shaft stroke tail tip =>
    "<polyline fill=\"none\" opacity=\"1\" stroke=\"" ++ stroke.colour ++ "\" stroke-width=\"" ++
      toString stroke.width ++ "\" points=\"" ++ d.pointText tail ++ " " ++ d.pointText tip ++
      " \"/>"
  | .head colour tip left right =>
    "<polygon opacity=\"1\" fill=\"" ++ colour ++ "\" points=\"" ++ d.pointText tip ++ " " ++
      d.pointText left ++ " " ++ d.pointText right ++ " \"/>"
  | .dot centre radius =>
    "<circle cx=\"" ++ toString (clamp centre.x d.width) ++ "\" cy=\"" ++
      toString (clamp centre.y d.height) ++ "\" r=\"" ++ toString (reach radius).toNat ++
      "\" opacity=\"1\" fill=\"#000000\" stroke=\"none\" stroke-width=\"1\"/>"

def lines (d : Diagram) : List String :=
  let w := toString d.width.toNat
  let h := toString d.height.toNat
  [ "<svg width=\"" ++ w ++ "\" height=\"" ++ h ++ "\" viewBox=\"0 0 " ++ w ++ " " ++ h ++
      "\" xmlns=\"http://www.w3.org/2000/svg\">",
    "<rect x=\"0\" y=\"0\" width=\"" ++ toString (reach d.width) ++ "\" height=\"" ++
      toString (reach d.height) ++
      "\" opacity=\"1\" fill=\"#FFFFFF\" stroke=\"none\"/>" ] ++
    d.elements.map d.elementLine ++ ["</svg>"]

def svg (d : Diagram) : String := String.join (d.lines.map (· ++ "\n"))

end Diagram

end RackTraffic
