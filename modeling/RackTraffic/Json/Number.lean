import RackTraffic.Decimal.Reading
import RackTraffic.Json.Value

/-!
# Numbers of JSON texts

A number is an integer if it is written as one and fits in 64 bits, with a sign or without. Every
other number is a float, zero with a minus included.

A float is read from as many of a number's leading digits as fit in 64 bits. That integer is made a
float, and one multiplication or division by a power of ten gives the result. For numbers of up to
fifteen digits and small exponents this is the float nearest to the number. A number beyond the
largest float is refused.
-/

namespace RackTraffic.Json

open Decimal (Numeral)

/-! ## Integers -/

/-- The integer that a numeral stands for, if it is written as one and fits in 64 bits. -/
def integerOfNumeral? (n : Numeral) : Option Int :=
  let v := Decimal.digitsValue n.whole
  if ¬(n.fraction.isEmpty ∧ n.exponent.isNone) then none
  else if n.negative then if 0 < v ∧ v ≤ Nat.pow 2 63 then some (-v) else none
  else if v < UInt64.size then some v else none

/-! ## Floats -/

/-- Append digits to a number as long as it fits in 64 bits; the digits that are left over follow.
-/
def appendDigits : Nat → List Char → Nat × List Char
  | v, [] => (v, [])
  | v, c :: rest =>
    let w := 10 * v + (c.toNat - '0'.toNat)
    if w < UInt64.size then appendDigits w rest else (v, c :: rest)

def maxPower : Nat := 308

def powerOfTen (n : Nat) : Float := Float.ofScientific 1 false n

/-- Multiply by a power of ten. An exponent far below zero is taken in several steps, of which
`steps` bounds the number: nothing is left of any number after three. -/
def scaleFloat : (steps : Nat) → Float → Int → Option Float
  | 0, x, _ => some x
  | steps + 1, x, e =>
    if e.natAbs ≤ maxPower then
      if 0 ≤ e then
        let y := x * powerOfTen e.natAbs
        if y.isInf then none else some y
      else some (x / powerOfTen e.natAbs)
    else if x == 0.0 then some x
    else if 0 ≤ e then none
    else scaleFloat steps (x / powerOfTen maxPower) (e + maxPower)

/-- The float that a numeral stands for. -/
def floatOfNumeral? (n : Numeral) : Option Float :=
  let (v, dropped) := appendDigits 0 n.whole
  let (v, rest) := appendDigits v n.fraction
  let used := n.fraction.length - rest.length
  let e : Int := dropped.length - used + n.exponent.getD 0
  (scaleFloat 4 (Float.ofNat v) e).map fun x => if n.negative then -x else x

end RackTraffic.Json
