/-!
# Distances

The distance between two points of a grid is the square root of an integer. It is computed with
exact integer arithmetic, to more bits than a float has, and then rounded once. So the result is the
float nearest to the distance, which the square root of a rounded sum is not always.
-/

namespace RackTraffic

/-- The largest integer below `root + 2 ^ bits`, and not below `root`, whose square is at most
`n`. -/
def floorRoot (n : Nat) : (bits root : Nat) → Nat
  | 0, root => root
  | bits + 1, root =>
    let larger := root + Nat.pow 2 bits
    floorRoot n bits (if larger * larger ≤ n then larger else root)

def rootScale : Nat := 64

/-- The float nearest to the square root of `n`. A last bit says whether anything of the root is
left out, so that a root between two floats is not taken for one midway between them. -/
def nearestRoot (n : Nat) : Float :=
  let scaled := n * Nat.pow 4 rootScale
  let root := floorRoot scaled (Nat.log2 scaled / 2 + 1) 0
  let sticky := if root * root = scaled then 0 else 1
  (Float.ofNat (2 * root + sticky)).scaleB (-(rootScale + 1))

/-- The distance between two points. -/
def distance (p q : Nat × Nat) : Float :=
  let dx := (p.1 : Int) - q.1
  let dy := (p.2 : Int) - q.2
  nearestRoot (dx * dx + dy * dy).toNat

end RackTraffic
