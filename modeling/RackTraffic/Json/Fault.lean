import RackTraffic.Decimal.Notation
import RackTraffic.Text.Quoted

/-!
# Faults of JSON texts

A text that is not what it should be has a first *flaw*: it breaks the grammar, it holds a value of
another form than the one that is wanted, or a record has a field that it must not have. A fault is
a flaw and the place at which it was noticed, a line and a column. Lines count from one; a column is
the number of bytes of its line that have been looked at.
-/

namespace RackTraffic.Json

open Decimal (Numeral)

inductive Unfinished where
  | value
  | array
  | object
  | string
  deriving DecidableEq, Repr

inductive Found where
  | null
  | bool (value : Bool)
  | integer (value : Int)
  | float (numeral : Numeral)
  | string (text : String)
  | array
  | object
  deriving DecidableEq, Repr

/-- What is wanted. -/
inductive Wanted where
  | string
  | path
  | float
  | word
  | count
  | variant
  | nothing
  | record (name : String)
  deriving DecidableEq, Repr

inductive Flaw where
  | unfinished (what : Unfinished)
  | noColon
  | noElementEnd
  | noMemberEnd
  | noWord
  | noValue
  | badEscape
  | badNumber
  | outOfRange
  | controlCharacter
  | keyNoString
  /-- Half of a surrogate pair follows no first half, or another half than the second follows it. -/
  | loneHalf
  /-- No escape follows the first half of a surrogate pair. -/
  | openPair
  | trailingComma
  | trailingCharacters
  | wrongType (found : Found) (wanted : Wanted)
  | wrongValue (found : Found) (wanted : Wanted)
  | unknownField (name : String) (known : List String)
  | unknownVariant (name : String) (known : List String)
  | duplicateField (name : String)
  deriving DecidableEq, Repr

/-! ## Wording -/

def Unfinished.text : Unfinished → String
  | .value => "a value"
  | .array => "a list"
  | .object => "an object"
  | .string => "a string"

def backquoted (text : String) : String := "`" ++ text ++ "`"

def Found.text : Found → String
  | .null => "null"
  | .bool value => "boolean " ++ backquoted (toString value)
  | .integer value => "integer " ++ backquoted (toString value)
  | .float numeral => "floating point " ++ backquoted (String.ofList numeral.text)
  | .string text => "string " ++ Text.quote text
  | .array => "sequence"
  | .object => "map"

def Wanted.text : Wanted → String
  | .string => "a string"
  | .path => "path string"
  | .float => "f64"
  | .word => "u64"
  | .count => "usize"
  | .variant => "variant identifier"
  | .nothing => "unit"
  | .record name => "struct " ++ name

def choices : List String → String
  | [] => "nothing"
  | [name] => backquoted name
  | [name, other] => backquoted name ++ " or " ++ backquoted other
  | names => "one of " ++ ", ".intercalate (names.map backquoted)

def Flaw.message : Flaw → String
  | .unfinished what => "EOF while parsing " ++ what.text
  | .noColon => "expected `:`"
  | .noElementEnd => "expected `,` or `]`"
  | .noMemberEnd => "expected `,` or `\x7d`"
  | .noWord => "expected ident"
  | .noValue => "expected value"
  | .badEscape => "invalid escape"
  | .badNumber => "invalid number"
  | .outOfRange => "number out of range"
  | .controlCharacter =>
    "control character (\\u0000-\\u001F) found while parsing a string"
  | .keyNoString => "key must be a string"
  | .loneHalf => "lone leading surrogate in hex escape"
  | .openPair => "unexpected end of hex escape"
  | .trailingComma => "trailing comma"
  | .trailingCharacters => "trailing characters"
  | .wrongType found wanted => "invalid type: " ++ found.text ++ ", expected " ++ wanted.text
  | .wrongValue found wanted => "invalid value: " ++ found.text ++ ", expected " ++ wanted.text
  | .unknownField name known =>
    "unknown field " ++ backquoted name ++ ", expected " ++ choices known
  | .unknownVariant name known =>
    "unknown variant " ++ backquoted name ++ ", expected " ++ choices known
  | .duplicateField name => "duplicate field " ++ backquoted name

/-- A flaw, and the place at which it was noticed. -/
structure Fault where
  flaw : Flaw
  line : Nat
  column : Nat
  deriving DecidableEq, Repr

def Fault.message (fault : Fault) : String :=
  fault.flaw.message ++ s!" at line {fault.line} column {fault.column}"

end RackTraffic.Json
