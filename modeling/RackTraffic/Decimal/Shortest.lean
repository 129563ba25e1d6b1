import RackTraffic.Decimal.Binary

/-!
# The fewest digits that read back

Of all decimal numbers that round to a given float, this module finds one with the fewest digits,
and of those the one nearest to the float. The decimals that round to a float fill an interval
around it, whose ends belong to it if the significand is even. For one digit, two, three, …, the
float has two neighbours on the grid of decimals with so many digits; the first grid with a
neighbour inside the interval gives the answer. Seventeen digits always suffice.

Two neighbours can be equally near. A `Tie` says which one is taken.
-/

namespace RackTraffic.Decimal

/-- The choice between two decimals at the same distance. -/
inductive Tie where
  | up
  | even
  deriving DecidableEq, Repr

structure Digits where
  digits : Nat
  exponent : Int
  deriving DecidableEq, Repr

structure Ratio where
  num : Nat
  den : Nat

def Ratio.ofBinary (n : Nat) (e : Int) : Ratio := ⟨n * Nat.pow 2 e.toNat, Nat.pow 2 (-e).toNat⟩

def Ratio.shift (r : Ratio) (e : Int) : Ratio :=
  ⟨r.num * Nat.pow 10 (-e).toNat, r.den * Nat.pow 10 e.toNat⟩

/-- How many digits stand before the point; for a fraction below 1, the negated number of zeros
that follow the point. -/
def Ratio.order (r : Ratio) : Int :=
  if r.den ≤ r.num then ((Nat.toDigits 10 (r.num / r.den)).length : Int)
  else -(((List.range 400).find? fun j => r.den ≤ r.num * Nat.pow 10 (j + 1)).getD 400 : Int)

/-- The numbers that round to a float, as numerators over the float's own denominator. -/
structure Interval where
  low : Nat
  value : Nat
  high : Nat
  den : Nat
  closed : Bool

/-- The interval of `significand * 2 ^ exponent`. Below a power of two floats lie half as far
apart. -/
def Interval.ofBinary (significand : Nat) (exponent : Int) : Interval :=
  let r := Ratio.ofBinary 1 (exponent - 2)
  let below := if significand = Nat.pow 2 52 ∧ exponent ≠ leastExponent then 1 else 2
  { low := (4 * significand - below) * r.num
    value := 4 * significand * r.num
    high := (4 * significand + 2) * r.num
    den := r.den
    closed := significand % 2 = 0 }

def Interval.holds (i : Interval) (d : Nat) (g : Int) : Bool :=
  let unit := i.den * Nat.pow 10 g.toNat
  let scale := Nat.pow 10 (-g).toNat
  if i.closed then i.low * scale ≤ d * unit && d * unit ≤ i.high * scale
  else i.low * scale < d * unit && d * unit < i.high * scale

/-- The multiple of `10 ^ g` in the interval that is nearest to its value, if there is one. -/
def Interval.nearest? (i : Interval) (tie : Tie) (g : Int) : Option Nat :=
  let r := Ratio.shift ⟨i.value, i.den⟩ g
  let d := r.num / r.den
  match i.holds d g, i.holds (d + 1) g with
  | false, false => none
  | true, false => some d
  | false, true => some (d + 1)
  | true, true =>
    match compare (2 * (r.num % r.den)) r.den with
    | .lt => some d
    | .gt => some (d + 1)
    | .eq => match tie with
      | .up => some (d + 1)
      | .even => some (if d % 2 = 0 then d else d + 1)

def Digits.strip (d : Digits) : Digits :=
  let zeros := ((Nat.toDigits 10 d.digits).reverse.takeWhile (· = '0')).length
  if d.digits = 0 then d else ⟨d.digits / Nat.pow 10 zeros, d.exponent + zeros⟩

/-- The shortest decimal of the positive number `significand * 2 ^ exponent`. -/
def shortest (tie : Tie) (significand : Nat) (exponent : Int) : Digits :=
  let i := Interval.ofBinary significand exponent
  let order := Ratio.order ⟨i.value, i.den⟩
  let found := (List.range 17).findSome? fun n =>
    let g := order - (n + 1 : Nat)
    (i.nearest? tie g).map fun d => (⟨d, g⟩ : Digits)
  (found.getD ⟨0, 0⟩).strip

end RackTraffic.Decimal
