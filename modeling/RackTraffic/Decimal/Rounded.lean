import RackTraffic.Decimal.Shortest

/-!
# Rounding to a number of digits

A fraction is written with as many digits as asked for. Its value is known exactly, so the last
digit is the right one; a value that lies in the middle of two neighbours goes to the even one.
-/

namespace RackTraffic.Decimal

/-- The multiple of `10 ^ e` that is nearest to a fraction, in units of `10 ^ e`. -/
def Ratio.nearest (r : Ratio) (e : Int) : Nat :=
  let q := r.shift e
  let n := q.num / q.den
  let twice := 2 * (q.num % q.den)
  if twice < q.den then n
  else if q.den < twice then n + 1
  else n + n % 2

/-- Digits with zeros before them, so that there are at least so many. -/
def padded (count : Nat) (digits : List Char) : List Char :=
  List.replicate (count - digits.length) '0' ++ digits

def pointed (always : Bool) (digits : List Char) : List Char :=
  if digits.isEmpty && !always then [] else '.' :: digits

def Ratio.fixed (r : Ratio) (alwaysPoint : Bool) (places : Nat) : List Char :=
  let digits := padded (places + 1) (Nat.toDigits 10 (r.nearest (-places)))
  let whole := digits.take (digits.length - places)
  whole ++ pointed alwaysPoint (digits.drop whole.length)

/-- The first digits of a fraction, one more than `places`, and the power of ten of the first. -/
def Ratio.leading (r : Ratio) (places : Nat) : List Char × Int :=
  if r.num = 0 then (List.replicate (places + 1) '0', 0)
  else
    let e := r.order - 1
    let digits := Nat.toDigits 10 (r.nearest (e - places))
    if digits.length ≤ places + 1 then (digits, e) else (digits.dropLast, e + 1)

def exponentDigits (e : Int) : List Char :=
  (if e < 0 then '-' else '+') :: padded 2 (Nat.toDigits 10 e.natAbs)

/-- A fraction with one digit before the point, so many after it, and an exponent of ten. -/
def Ratio.scientific (r : Ratio) (alwaysPoint : Bool) (places : Nat) : List Char :=
  let (digits, e) := r.leading places
  digits.take 1 ++ pointed alwaysPoint digits.tail ++ 'e' :: exponentDigits e

def stripZeros (s : List Char) : List Char :=
  if s.contains '.' then
    let kept := s.reverse.dropWhile (· == '0')
    ((if kept.head? = some '.' then kept.tail else kept)).reverse
  else s

/-- A fraction with so many digits in all, in the shorter notation. Zeros at the end are left out
unless `all` asks for them. -/
def Ratio.general (r : Ratio) (all : Bool) (digits : Nat) : List Char :=
  let digits := max digits 1
  let (leading, e) := r.leading (digits - 1)
  let strip (s : List Char) : List Char := if all then s else stripZeros s
  if -4 ≤ e ∧ e < digits then strip (r.fixed all (digits - 1 - e).toNat)
  else strip (leading.take 1 ++ pointed all leading.tail) ++ 'e' :: exponentDigits e

end RackTraffic.Decimal
