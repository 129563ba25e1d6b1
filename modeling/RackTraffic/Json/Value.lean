import RackTraffic.Decimal.Notation

/-!
# JSON values

A JSON text stands for a tree of values. Objects keep their members in the order of the text, and a
key may occur more than once: what that means is for the reader of the object to say.

A string of a text is a sequence of UTF-16 units, and some of these sequences stand for no string:
those with half of a surrogate pair. They are kept as `none`, since a value that nobody looks at may
hold one.

Values are written in two styles: *compact*, without any blanks, and *indented*, with one element or
member to a line.
-/

namespace RackTraffic

open Decimal (Numeral)

inductive JsonValue where
  | null
  | bool (value : Bool)
  | number (numeral : Numeral)
  | string (text : Option String)
  | array (elements : List JsonValue)
  | object (members : List (Option String × JsonValue))

namespace JsonValue

def ofNat (n : Nat) : JsonValue := .number (.ofNat n)

def ofUInt64 (n : UInt64) : JsonValue := ofNat n.toNat

/-- A float, or `null` if JSON cannot write it. -/
def ofFloat (x : Float) : JsonValue :=
  match Decimal.json? x with
  | some numeral => .number numeral
  | none => .null

def ofMembers (members : List (String × JsonValue)) : JsonValue :=
  .object (members.map fun (key, value) => (some key, value))

/-! ## Writing -/

def charText (c : Char) : List Char :=
  match c with
  | '"' => ['\\', '"']
  | '\\' => ['\\', '\\']
  | '\n' => ['\\', 'n']
  | '\r' => ['\\', 'r']
  | '\t' => ['\\', 't']
  | '\x08' => ['\\', 'b']
  | '\x0c' => ['\\', 'f']
  | c =>
    if c.toNat < 0x20 then
      let digits := Nat.toDigits 16 c.toNat
      '\\' :: 'u' :: (Decimal.zeros (4 - digits.length) ++ digits)
    else [c]

def stringText (s : String) : List Char := '"' :: s.toList.flatMap charText ++ ['"']

mutual

def compact : JsonValue → List Char
  | .null => "null".toList
  | .bool true => "true".toList
  | .bool false => "false".toList
  | .number n => n.text
  | .string s => stringText (s.getD "")
  | .array [] => ['[', ']']
  | .array (v :: vs) => '[' :: v.compact ++ compactRest vs
  | .object [] => ['\x7b', '\x7d']
  | .object ((key, v) :: ms) =>
    '\x7b' :: stringText (key.getD "") ++ ':' :: v.compact ++ compactMembers ms

/-- The elements after the first, and the bracket that closes the array. -/
def compactRest : List JsonValue → List Char
  | [] => [']']
  | v :: vs => ',' :: v.compact ++ compactRest vs

/-- The members after the first, and the brace that closes the object. -/
def compactMembers : List (Option String × JsonValue) → List Char
  | [] => ['\x7d']
  | (key, v) :: ms => ',' :: stringText (key.getD "") ++ ':' :: v.compact ++ compactMembers ms

end

/-- A new line with an indentation of two blanks per level. -/
def newLine (level : Nat) : List Char := '\n' :: List.replicate (2 * level) ' '

mutual

/-- The text of a value with one element or member to a line. -/
def indented (level : Nat) : JsonValue → List Char
  | .array [] => ['[', ']']
  | .array (v :: vs) =>
    '[' :: newLine (level + 1) ++ v.indented (level + 1) ++ indentedRest level vs
  | .object [] => ['\x7b', '\x7d']
  | .object ((key, v) :: ms) =>
    '\x7b' :: newLine (level + 1) ++ stringText (key.getD "") ++ ':' :: ' ' ::
      v.indented (level + 1) ++ indentedMembers level ms
  | v => v.compact

def indentedRest (level : Nat) : List JsonValue → List Char
  | [] => newLine level ++ [']']
  | v :: vs => ',' :: newLine (level + 1) ++ v.indented (level + 1) ++ indentedRest level vs

def indentedMembers (level : Nat) : List (Option String × JsonValue) → List Char
  | [] => newLine level ++ ['\x7d']
  | (key, v) :: ms =>
    ',' :: newLine (level + 1) ++ stringText (key.getD "") ++ ':' :: ' ' ::
      v.indented (level + 1) ++ indentedMembers level ms

end

def compactText (v : JsonValue) : String := String.ofList v.compact

def indentedText (v : JsonValue) : String := String.ofList (v.indented 0)

end JsonValue

end RackTraffic
