/-!
# Reading floats

The text of a float is an optional sign and then either one of the words `inf`, `infinity` and
`nan`, in any mixture of cases, or digits with at most one point among them and at least one digit,
followed by an optional exponent. Neither blanks nor separators are allowed.

A decimal number is read as the float nearest to it, however many digits it has. Values beyond the
largest float become infinite and values too small become zero, with their sign.
-/

namespace RackTraffic.Decimal

/-- A run of digits at the start of a text, and the rest. -/
def takeDigits (s : List Char) : List Char × List Char := s.span Char.isDigit

def digitsValue (s : List Char) : Nat := Nat.ofDigitChars 10 s 0

/-- An optional sign: whether it is a minus, and the rest of the text. -/
def takeSign : List Char → Bool × List Char
  | '-' :: rest => (true, rest)
  | '+' :: rest => (false, rest)
  | s => (false, s)

/-- The value of an exponent part, which is empty or `e` and an integer. -/
def readExponent : List Char → Option Int
  | [] => some 0
  | e :: rest =>
    if e = 'e' ∨ e = 'E' then
      let (negative, digits) := takeSign rest
      if digits ≠ [] ∧ digits.all Char.isDigit then
        let v : Int := digitsValue digits
        some (if negative then -v else v)
      else none
    else none

/-- The float nearest to `digits * 10 ^ exponent`. The bounds on the exponent keep the arithmetic
small: beyond them the answer is known. -/
def nearestFloat (digits : Nat) (exponent : Int) : Float :=
  let order : Int := (Nat.toDigits 10 digits).length + exponent
  if digits = 0 ∨ order < -400 then 0.0
  else if 400 < order then 1.0 / 0.0
  else if 0 ≤ exponent then Float.ofScientific digits false exponent.toNat
  else Float.ofScientific digits true (-exponent).toNat

def readDecimal? (s : List Char) : Option Float :=
  let (whole, rest) := takeDigits s
  let (fraction, rest) := match rest with
    | '.' :: r => takeDigits r
    | _ => ([], rest)
  if whole = [] ∧ fraction = [] then none
  else (readExponent rest).map fun e =>
    nearestFloat (digitsValue (whole ++ fraction)) (e - fraction.length)

def readName? (s : List Char) : Option Float :=
  let word := s.map Char.toLower
  if word = "inf".toList ∨ word = "infinity".toList then some (1.0 / 0.0)
  else if word = "nan".toList then some (0.0 / 0.0)
  else none

/-- The float that a text stands for. -/
def readFloat? (s : List Char) : Option Float :=
  let (negative, rest) := takeSign s
  let magnitude := (readName? rest).or (readDecimal? rest)
  magnitude.map fun x => if negative then -x else x

end RackTraffic.Decimal
