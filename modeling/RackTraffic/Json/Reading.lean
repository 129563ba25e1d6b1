import RackTraffic.Decimal.Reading
import RackTraffic.Json.Value

/-!
# Reading JSON

The strict grammar of JSON: blanks are the space, the tab, the line feed and the carriage return;
no comments, no commas at the end of a list, no zeros before a number, no bare control characters in
a string. After the value only blanks may follow.

Numbers are kept as they are written. How a number is read depends on what is asked for, which is
decided when the tree is looked at.
-/

namespace RackTraffic.Json

open Decimal (Numeral takeDigits)

def skipBlanks (s : List Char) : List Char :=
  s.dropWhile fun c => c == ' ' || c == '\t' || c == '\n' || c == '\r'

/-! ## Numbers -/

/-- The digits before the point: a lone zero, or digits that do not start with one. -/
def takeWhole (s : List Char) : Option (List Char × List Char) :=
  match s with
  | '0' :: rest => some (['0'], rest)
  | _ =>
    match takeDigits s with
    | ([], _) => none
    | found => some found

def takeFraction (s : List Char) : Option (List Char × List Char) :=
  match s with
  | '.' :: rest =>
    match takeDigits rest with
    | ([], _) => none
    | found => some found
  | _ => some ([], s)

def takeExponent (s : List Char) : Option (Option Int × List Char) :=
  let after (rest : List Char) : Option (Option Int × List Char) :=
    let (negative, rest) := Decimal.takeSign rest
    match takeDigits rest with
    | ([], _) => none
    | (digits, rest) =>
      let v : Int := Decimal.digitsValue digits
      some (some (if negative then -v else v), rest)
  match s with
  | 'e' :: rest => after rest
  | 'E' :: rest => after rest
  | _ => some (none, s)

/-- A number at the start of a text. -/
def takeNumeral (s : List Char) : Option (Numeral × List Char) := do
  let (negative, s) := match s with
    | '-' :: rest => (true, rest)
    | _ => (false, s)
  let (whole, s) ← takeWhole s
  let (fraction, s) ← takeFraction s
  let (exponent, s) ← takeExponent s
  return ({ negative, whole, fraction, exponent }, s)

/-! ## Strings -/

def hexValue? (c : Char) : Option Nat :=
  if c.isDigit then some (c.toNat - '0'.toNat)
  else if 'a' ≤ c ∧ c ≤ 'f' then some (c.toNat - 'a'.toNat + 10)
  else if 'A' ≤ c ∧ c ≤ 'F' then some (c.toNat - 'A'.toNat + 10)
  else none

def takeUnit : List Char → Option (Nat × List Char)
  | a :: b :: c :: d :: rest => do
    let a ← hexValue? a
    let b ← hexValue? b
    let c ← hexValue? c
    let d ← hexValue? d
    return (((a * 16 + b) * 16 + c) * 16 + d, rest)
  | _ => none

def shortEscape? : Char → Option Char
  | '"' => some '"'
  | '\\' => some '\\'
  | '/' => some '/'
  | 'b' => some '\x08'
  | 'f' => some '\x0c'
  | 'n' => some '\n'
  | 'r' => some '\r'
  | 't' => some '\t'
  | _ => none

/-- A piece of a string: a character, or a UTF-16 unit that was written by its number. -/
inductive Piece where
  | char (c : Char)
  | unit (u : Nat)

/-- The pieces of a string after its opening quote, and what follows its closing quote. -/
def takePieces : (fuel : Nat) → List Char → Option (List Piece × List Char)
  | 0, _ => none
  | fuel + 1, s =>
    match s with
    | [] => none
    | '"' :: rest => some ([], rest)
    | '\\' :: 'u' :: rest => do
      let (u, rest) ← takeUnit rest
      let (ps, rest) ← takePieces fuel rest
      return (.unit u :: ps, rest)
    | '\\' :: c :: rest => do
      let c ← shortEscape? c
      let (ps, rest) ← takePieces fuel rest
      return (.char c :: ps, rest)
    | c :: rest =>
      if c == '\\' || c.toNat < 0x20 then none
      else do
        let (ps, rest) ← takePieces fuel rest
        return (.char c :: ps, rest)

def isHighHalf (u : Nat) : Bool := 0xD800 ≤ u && u < 0xDC00

def isLowHalf (u : Nat) : Bool := 0xDC00 ≤ u && u < 0xE000

/-- The characters that pieces stand for, unless half of a pair stands alone. -/
def joinPieces : List Piece → Option (List Char)
  | [] => some []
  | .char c :: rest => (joinPieces rest).map (c :: ·)
  | .unit h :: .unit l :: rest =>
    if isHighHalf h && isLowHalf l then
      (joinPieces rest).map (Char.ofNat (0x10000 + (h - 0xD800) * 0x400 + (l - 0xDC00)) :: ·)
    else if isHighHalf h || isLowHalf h then none
    else (joinPieces (.unit l :: rest)).map (Char.ofNat h :: ·)
  | .unit u :: rest =>
    if isHighHalf u || isLowHalf u then none
    else (joinPieces rest).map (Char.ofNat u :: ·)

def takeString (s : List Char) : Option (Option String × List Char) :=
  (takePieces s.length s).map fun (pieces, rest) =>
    ((joinPieces pieces).map String.ofList, rest)

/-! ## Values -/

mutual

/-- A value at the start of a text, after blanks. Of two nested calls at least one reads a
character, so twice the length of the text is fuel enough. -/
def takeValue : (fuel : Nat) → List Char → Option (JsonValue × List Char)
  | 0, _ => none
  | fuel + 1, s =>
    match skipBlanks s with
    | 'n' :: 'u' :: 'l' :: 'l' :: rest => some (.null, rest)
    | 't' :: 'r' :: 'u' :: 'e' :: rest => some (.bool true, rest)
    | 'f' :: 'a' :: 'l' :: 's' :: 'e' :: rest => some (.bool false, rest)
    | '"' :: rest => (takeString rest).map fun (text, rest) => (.string text, rest)
    | '[' :: rest =>
      match skipBlanks rest with
      | ']' :: rest => some (.array [], rest)
      | rest => (takeElements fuel rest).map fun (vs, rest) => (.array vs, rest)
    | '\x7b' :: rest =>
      match skipBlanks rest with
      | '\x7d' :: rest => some (.object [], rest)
      | rest => (takeMembers fuel rest).map fun (ms, rest) => (.object ms, rest)
    | s => (takeNumeral s).map fun (numeral, rest) => (.number numeral, rest)

def takeElements : (fuel : Nat) → List Char → Option (List JsonValue × List Char)
  | 0, _ => none
  | fuel + 1, s => do
    let (v, rest) ← takeValue fuel s
    match skipBlanks rest with
    | ',' :: rest => do
      let (vs, rest) ← takeElements fuel rest
      return (v :: vs, rest)
    | ']' :: rest => return ([v], rest)
    | _ => none

def takeMembers : (fuel : Nat) → List Char →
    Option (List (Option String × JsonValue) × List Char)
  | 0, _ => none
  | fuel + 1, s => do
    let '"' :: rest := skipBlanks s | none
    let (key, rest) ← takeString rest
    let ':' :: rest := skipBlanks rest | none
    let (v, rest) ← takeValue fuel rest
    match skipBlanks rest with
    | ',' :: rest => do
      let (ms, rest) ← takeMembers fuel rest
      return ((key, v) :: ms, rest)
    | '\x7d' :: rest => return ([(key, v)], rest)
    | _ => none

end

/-- The value that a text stands for. -/
def read? (text : String) : Option JsonValue :=
  match takeValue (2 * text.toList.length + 1) text.toList with
  | some (v, rest) => if skipBlanks rest = [] then some v else none
  | none => none

end RackTraffic.Json
