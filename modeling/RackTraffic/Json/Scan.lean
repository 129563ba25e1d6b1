import RackTraffic.Json.Fault
import RackTraffic.Json.Number
import RackTraffic.Json.Reading

/-!
# Scanning JSON texts

A scan takes what it wants from the start of a text and leaves the rest, or it stops with a flaw.
While reading a text gives all or nothing, a scan says what is wrong, and where. It looks at the
text only as far as it has to: a value of an unwanted form is not read to its end.

A stop remembers the text that was left, from which its place in the whole text follows. Some flaws
are noticed a few bytes further on.
-/

namespace RackTraffic.Json

open Decimal (Numeral takeDigits takeSign)

/-- Where a scan has stopped, and why. -/
structure Stop where
  flaw : Flaw
  rest : List Char
  /-- The number of bytes of it that had been looked at. -/
  ahead : Nat := 0

def byteCount (s : List Char) : Nat := (String.ofList s).utf8ByteSize

/-- The line and the column behind a number of bytes. -/
def placeOf (bytes : List UInt8) : Nat × Nat :=
  let newLine : UInt8 := 10
  (1 + bytes.count newLine, (bytes.reverse.takeWhile (· ≠ newLine)).length)

def Stop.toFault (text : String) (stop : Stop) : Fault :=
  let offset := text.utf8ByteSize - byteCount stop.rest + stop.ahead
  let (line, column) := placeOf (text.toUTF8.toList.take offset)
  { flaw := stop.flaw, line, column }

abbrev Scan (α : Type) := StateT (List Char) (Except Stop) α

namespace Scan

def stop {α : Type} (flaw : Flaw) : Scan α := fun s => .error { flaw, rest := s }

/-- Stop after a look at the next byte. -/
def stopAhead {α : Type} (flaw : Flaw) : Scan α := fun s => .error { flaw, rest := s, ahead := 1 }

/-- Drop blanks, and look at the next character. -/
def peek : Scan (Option Char) := fun s => let s := skipBlanks s; .ok (s.head?, s)

def skip : Scan Unit := modify List.tail

def word : List Char → Scan Unit
  | [] => return
  | c :: cs => do
    match ← get with
    | [] => stop (.unfinished .value)
    | d :: rest => if c = d then do set rest; word cs else stopAhead .noWord

/-! ## Numbers -/

def startsNumber (c : Char) : Bool := c == '-' || c.isDigit

/-- Why no number can be read from a text that starts like one. -/
def numeralStop (s : List Char) : Stop :=
  let noDigit (flawAtEnd : Flaw) (s : List Char) : Stop :=
    match s with
    | [] => { flaw := flawAtEnd, rest := [] }
    | s => { flaw := .badNumber, rest := s, ahead := 1 }
  let s := if s.head? = some '-' then s.tail else s
  match takeWhole s with
  | none => noDigit (.unfinished .value) s
  | some (_, s) =>
    match takeFraction s with
    | none => noDigit (.unfinished .value) s.tail
    | some (_, s) => noDigit (.unfinished .value) (takeSign s.tail).2

/-- The largest exponent that is read to its end, if its sign is not a minus. -/
def maxExponent : Nat := Nat.pow 2 31 - 1

/-- What is left of the digits of an exponent when it is known to be too large. -/
def dropExponent : Nat → List Char → List Char
  | _, [] => []
  | v, c :: rest =>
    let w := 10 * v + (c.toNat - '0'.toNat)
    if !c.isDigit then c :: rest
    else if maxExponent < w then rest
    else dropExponent w rest

/-- What is left of a text when the number at its start, which ends before `rest`, is known to be
beyond the largest float. -/
def dropRange (n : Numeral) (s rest : List Char) : List Char :=
  if n.exponent.isNone then rest
  else
    let digits := (takeSign (s.dropWhile fun c => c != 'e' && c != 'E').tail).2
    dropExponent 0 digits

def number : Scan (Int ⊕ Float) := fun s =>
  match takeNumeral s with
  | none => .error (numeralStop s)
  | some (n, rest) =>
    if rest.head?.any Char.isDigit then .error { flaw := .badNumber, rest, ahead := 1 }
    else
      match integerOfNumeral? n with
      | some v => .ok (.inl v, rest)
      | none =>
        match floatOfNumeral? n with
        | some x => .ok (.inr x, rest)
        | none => .error { flaw := .outOfRange, rest := dropRange n s rest }

/-! ## Strings -/

/-- Why no UTF-16 unit can be read. -/
def unitStop (s : List Char) : Stop :=
  if byteCount s < 4 then { flaw := .unfinished .string, rest := [] }
  else { flaw := .badEscape, rest := s, ahead := 4 }

/-- Why no string can be read from the text after its opening quote. -/
def stringStop : (fuel : Nat) → List Char → Stop
  | 0, s => { flaw := .unfinished .string, rest := s }
  | fuel + 1, s =>
    match s with
    | '\\' :: 'u' :: rest =>
      match takeUnit rest with
      | none => unitStop rest
      | some (u, rest) =>
        if isLowHalf u then { flaw := .loneHalf, rest }
        else if isHighHalf u then secondHalf fuel rest
        else stringStop fuel rest
    | '\\' :: c :: rest =>
      if (shortEscape? c).isSome then stringStop fuel rest
      else { flaw := .badEscape, rest := c :: rest, ahead := 1 }
    | c :: rest =>
      if c == '\\' then { flaw := .unfinished .string, rest }
      else if c.toNat < 0x20 then { flaw := .controlCharacter, rest }
      else stringStop fuel rest
    | [] => { flaw := .unfinished .string, rest := [] }
where
  secondHalf (fuel : Nat) (s : List Char) : Stop :=
    match s with
    | '\\' :: 'u' :: rest =>
      match takeUnit rest with
      | none => unitStop rest
      | some (u, rest) =>
        if isLowHalf u then stringStop fuel rest else { flaw := .loneHalf, rest }
    | '\\' :: c :: rest => { flaw := .openPair, rest := c :: rest, ahead := 1 }
    | ['\\'] => { flaw := .unfinished .string, rest := [] }
    | [] => { flaw := .unfinished .string, rest := [] }
    | s => { flaw := .openPair, rest := s, ahead := 1 }

def quoted : Scan String := fun s =>
  match takeString s with
  | some (some text, rest) => .ok (text, rest)
  | _ => .error (stringStop s.length s)

/-! ## Wanted values -/

/-- Look at the next value as far as its form shows. -/
def found : Scan Found := do
  match ← get with
  | 'n' :: _ => do skip; word "ull".toList; return .null
  | 't' :: _ => do skip; word "rue".toList; return .bool true
  | 'f' :: _ => do skip; word "alse".toList; return .bool false
  | '"' :: _ => do skip; return .string (← quoted)
  | '[' :: _ => return .array
  | '\x7b' :: _ => return .object
  | c :: _ =>
    if startsNumber c then return ofNumber (← number)
    else stopAhead .noValue
  | [] => stopAhead (.unfinished .value)
where
  ofNumber : Int ⊕ Float → Found
    | .inl v => .integer v
    | .inr x => .float ((Decimal.json? x).getD (.ofNat 0))

def mismatch {α : Type} (wanted : Wanted) : Scan α := do
  stop (.wrongType (← found) wanted)

def text (wanted : Wanted) : Scan String := do
  match ← peek with
  | some '"' => do skip; quoted
  | _ => mismatch wanted

def unsigned (wanted : Wanted) : Scan UInt64 := do
  if (← peek).any startsNumber then
    match ← number with
    | .inl v =>
      if 0 ≤ v then return UInt64.ofNat v.toNat
      else stop (.wrongValue (.integer v) wanted)
    | .inr x => stop (.wrongType (found.ofNumber (.inr x)) wanted)
  else mismatch wanted

def float : Scan Float := do
  if (← peek).any startsNumber then
    match ← number with
    | .inl v => return Float.ofInt v
    | .inr x => return x
  else mismatch .float

def nullable {α : Type} (value : Scan α) : Scan (Option α) := do
  match ← peek with
  | some 'n' => do skip; word "ull".toList; return none
  | _ => return some (← value)

def null : Scan Unit := do
  match ← peek with
  | some 'n' => do skip; word "ull".toList
  | _ => mismatch .nothing

/-! ## Punctuation -/

def colon : Scan Unit := do
  match ← peek with
  | some ':' => skip
  | some _ => stopAhead .noColon
  | none => stopAhead (.unfinished .object)

/-- Whether another member follows, and if so, drop what stands before it. -/
def nextMember (first : Bool) : Scan Bool := do
  match ← peek with
  | some '\x7d' => return false
  | some ',' =>
    if first then stopAhead .keyNoString
    else
      skip
      match ← peek with
      | some '"' => return true
      | some '\x7d' => stopAhead .trailingComma
      | some _ => stopAhead .keyNoString
      | none => stopAhead (.unfinished .value)
  | some c =>
    if !first then stopAhead .noMemberEnd
    else if c == '"' then return true
    else stopAhead .keyNoString
  | none => stopAhead (.unfinished .object)

def nextElement (first : Bool) : Scan Bool := do
  match ← peek with
  | some ']' => return false
  | some ',' =>
    if first then return true
    else
      skip
      match ← peek with
      | some ']' => stopAhead .trailingComma
      | some _ => return true
      | none => stopAhead (.unfinished .value)
  | some _ => if first then return true else stopAhead .noElementEnd
  | none => stopAhead (.unfinished .array)

/-- The bracket at the end of an array that has no more fields. -/
def closeArray : Scan Unit := do
  match ← peek with
  | some ']' => skip
  | some ',' => do
    skip
    match ← peek with
    | some ']' => stopAhead .trailingComma
    | _ => stopAhead .trailingCharacters
  | some _ => stopAhead .trailingCharacters
  | none => stopAhead (.unfinished .array)

def finish : Scan Unit := do
  match ← peek with
  | none => return
  | some _ => stopAhead .trailingCharacters

/-- Scan a whole text. -/
def run {α : Type} (scan : Scan α) (text : String) : Except Fault α :=
  match (do let a ← scan; finish; return a : Scan α) text.toList with
  | .ok (a, _) => .ok a
  | .error stop => .error (stop.toFault text)

end Scan

end RackTraffic.Json
