/-!
# Integers in text

An integer is written with as few digits as possible and a minus sign if it is negative. It is read
more leniently: a plus sign may stand before it, and so may zeros. Nothing else is accepted, and a
value that does not fit the width asked for is refused.

When a text has several faults the first one met from the left is reported: a digit that makes the
value too large is met before a letter that follows it.
-/

namespace RackTraffic.Integer

inductive Fault where
  | empty
  /-- A character that is no digit, or a sign alone. -/
  | invalidDigit
  | tooLarge
  | tooSmall
  deriving DecidableEq, Repr

/-- Read digits after others of value `v`. The value must stay at or below `limit`; if it does not,
`excess` is the fault. -/
def readDigits (limit : Nat) (excess : Fault) : Nat → List Char → Except Fault Nat
  | v, [] => .ok v
  | v, c :: rest =>
    if c.isDigit then
      let w := 10 * v + (c.toNat - '0'.toNat)
      if w ≤ limit then readDigits limit excess w rest else .error excess
    else .error .invalidDigit

def readMagnitude (limit : Nat) (excess : Fault) : List Char → Except Fault Nat
  | [] => .error .invalidDigit
  | s => readDigits limit excess 0 s

def readUnsigned (limit : Nat) : List Char → Except Fault Nat
  | [] => .error .empty
  | '+' :: rest => readMagnitude limit .tooLarge rest
  | s => readMagnitude limit .tooLarge s

/-- Read a number from `-limit - 1` to `limit`. -/
def readSigned (limit : Nat) : List Char → Except Fault Int
  | '-' :: rest => (readMagnitude (limit + 1) .tooSmall rest).map fun v => -(v : Int)
  | s => (readUnsigned limit s).map fun v => (v : Int)

def readUInt64 (s : List Char) : Except Fault UInt64 :=
  (readUnsigned (UInt64.size - 1) s).map UInt64.ofNat

def readInt64 (s : List Char) : Except Fault Int64 :=
  (readSigned (Nat.pow 2 63 - 1) s).map Int64.ofInt

/-! ## Writing -/

def ofNat (n : Nat) : List Char := Nat.toDigits 10 n

def ofUInt64 (n : UInt64) : List Char := ofNat n.toNat

def ofInt (n : Int) : List Char :=
  if n < 0 then '-' :: ofNat n.natAbs else ofNat n.natAbs

def ofInt64 (n : Int64) : List Char := ofInt n.toInt

end RackTraffic.Integer
