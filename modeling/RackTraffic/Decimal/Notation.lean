import RackTraffic.Decimal.Shortest

/-!
# Writing floats

Both notations write the fewest digits that read back.

*Plain* notation, used in messages and program arguments, never has an exponent, and a whole number
has no point: `25`, `18.5`, `0.0000001`.

*JSON* notation always shows that the number is a float: `20.0`, `0.5`, `1e+22`, `5e-324`. Numbers
from `10 ^ -5` up to `10 ^ 16` are written without an exponent. JSON has no form for infinities
and for what is not a number.
-/

namespace RackTraffic.Decimal

/-- A written number: a sign, digits before and after the point and an exponent of ten. Without
digits after it the point is not written. -/
structure Numeral where
  negative : Bool := false
  whole : List Char
  fraction : List Char := []
  exponent : Option Int := none
  deriving DecidableEq, Repr

/-- The text of an exponent, which always has a sign. -/
def exponentText (e : Int) : List Char :=
  'e' :: (if e < 0 then '-' else '+') :: Nat.toDigits 10 e.natAbs

def Numeral.text (n : Numeral) : List Char :=
  (if n.negative then ['-'] else []) ++ n.whole ++
    (if n.fraction = [] then [] else '.' :: n.fraction) ++
    (match n.exponent with
      | none => []
      | some e => exponentText e)

def Numeral.ofNat (n : Nat) : Numeral := { whole := Nat.toDigits 10 n }

def zeros (n : Nat) : List Char := List.replicate n '0'

/-- A number without an exponent. -/
def positional (negative : Bool) (d : Digits) : Numeral :=
  let s := Nat.toDigits 10 d.digits
  let order : Int := s.length + d.exponent
  if 0 ≤ d.exponent then { negative, whole := s ++ zeros d.exponent.toNat }
  else if 0 < order then
    { negative, whole := s.take order.toNat, fraction := s.drop order.toNat }
  else { negative, whole := ['0'], fraction := zeros (-order).toNat ++ s }

/-- A number with one digit before the point and an exponent. -/
def scientific (negative : Bool) (d : Digits) : Numeral :=
  let s := Nat.toDigits 10 d.digits
  { negative, whole := s.take 1, fraction := s.drop 1
    exponent := some (s.length + d.exponent - 1) }

def plain (x : Float) : String :=
  let sign (negative : Bool) := if negative then "-" else ""
  match Binary.ofFloat x with
  | .nan => "NaN"
  | .infinite negative => sign negative ++ "inf"
  | .finite negative 0 _ => sign negative ++ "0"
  | .finite negative m q => String.ofList (positional negative (shortest .up m q)).text

def Numeral.pointed (n : Numeral) : Numeral :=
  if n.fraction = [] then { n with fraction := ['0'] } else n

/-- A float in JSON notation, if it has one. -/
def json? (x : Float) : Option Numeral :=
  match Binary.ofFloat x with
  | .nan | .infinite _ => none
  | .finite negative 0 _ => some { negative, whole := ['0'], fraction := ['0'] }
  | .finite negative m q =>
    let d := shortest .even m q
    let order : Int := (Nat.toDigits 10 d.digits).length + d.exponent
    some (if -5 < order ∧ order ≤ 16 then (positional negative d).pointed
      else scientific negative d)

end RackTraffic.Decimal
