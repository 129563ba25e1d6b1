import RackTraffic.Shell.Printing
import RackTraffic.Shell.Regex
import RackTraffic.Shell.Tool.Filter

/-!
# Values of record programs

A record program reads its input record by record and cuts each one into fields. It computes with
numbers and with texts, and takes one for the other where it has to: the number of a text is the one
that it starts with, and the text of a number is its digits if it is whole.

A text that comes from the input and looks like a number is compared as one. The characters of a
text are bytes here.

Only the machine for scripts (`Shell.host`) needs this module, and only `Main` and test runs need
the machine; no result is about it.
-/

namespace RackTraffic.Shell.Record

/-- A value of a record program. -/
inductive Value where
  | unset
  | number (x : Float)
  | text (s : List Char)
  | input (s : List Char)
  deriving Repr

/-! ## Numbers -/

def whole (x : Float) : Float := if x < 0.0 then x.ceil else x.floor

/-- The number that a text starts with, or zero. -/
def leadingFloat (s : List Char) : Float :=
  let s := s.dropWhile isNumberBlank
  (Decimal.readFloat? (s.take (Printing.decimalLength s))).getD 0.0

def looksNumeric (s : List Char) : Bool :=
  let s := s.dropWhile isNumberBlank
  let length := Printing.decimalLength s
  length != 0 && (s.drop length).all isNumberBlank

def Value.float : Value → Float
  | .unset => 0.0
  | .number x => x
  | .text s | .input s => leadingFloat s

def Value.isNumeric : Value → Bool
  | .unset | .number _ => true
  | .text _ => false
  | .input s => looksNumeric s

def Value.isTrue : Value → Bool
  | .unset => false
  | .number x => x != 0.0
  | .text s => !s.isEmpty
  | .input s => if looksNumeric s then leadingFloat s != 0.0 else !s.isEmpty

def Value.ofBool (b : Bool) : Value := .number (if b then 1.0 else 0.0)

def Value.ofNat (n : Nat) : Value := .number n.toFloat

def integerOf (x : Float) : Int := (whole x).toInt64.toInt

/-! ## Texts -/

def laidOut (layout : FieldLayout) (conversion : Char) (width precision : Option Nat) (x : Float) :
    List Char :=
  let left := layout.flags.contains '-'
  let zeros := layout.flags.contains '0'
  if "eEfFgG".toList.contains conversion then
    let (sign, body, fillable) := floatParts layout.flags (precision.getD 6) conversion x
    widened left (zeros && fillable) (width.getD 0) sign body
  else
    let (sign, body) := integerParts layout.flags precision conversion (integerOf x)
    widened left (zeros && precision.isNone) (width.getD 0) sign body

/-- The text of a number: its digits if it is whole, and otherwise in a format with one
directive. -/
def numberText (format : List Char) (x : Float) : List Char :=
  if x.isNaN then ['-', 'n', 'a', 'n']
  else if x == whole x && x.abs < 9.2e18 then (toString (integerOf x)).toList
  else
    match takeDirective .program (format.drop 1) with
    | (.field layout conversion, rest) =>
      laidOut layout conversion (layout.width.getD none) (layout.precision.getD none) x ++ rest
    | _ => format

/-- The text of a value; numbers have a format. -/
def Value.textIn (format : List Char) : Value → List Char
  | .unset => []
  | .number x => numberText format x
  | .text s | .input s => s

/-- How two values compare; numbers that are compared with texts have a format. -/
def Value.compare (format : List Char) (a b : Value) : Ordering :=
  if a.isNumeric && b.isNumeric then
    if a.float < b.float then .lt else if a.float == b.float then .eq else .gt
  else compareTexts (a.textIn format) (b.textIn format)

/-- Fill values into a format. Without enough of them there is no text. -/
def fill (number : List Char) : (fuel : Nat) → (format : List Char) → List Value →
    Option (List Char)
  | 0, _, _ | _, [], _ => some []
  | fuel + 1, '%' :: rest, values => do
    match takeDirective .program rest with
    | (.byte _, rest) => return '%' :: (← fill number fuel rest values)
    | (.field layout conversion, rest) =>
      let count (written : Option (Option Nat)) (values : List Value) :
          Option (Option Nat × List Value) :=
        match written, values with
        | none, values => some (none, values)
        | some (some n), values => some (some n, values)
        | some none, value :: values => some (some (integerOf value.float).toNat, values)
        | some none, [] => none
      let (width, values) ← count layout.width values
      let (precision, values) ← count layout.precision values
      match values with
      | [] => none
      | value :: values =>
        let left := layout.flags.contains '-'
        let shown := match conversion with
          | 's' =>
            let s := value.textIn number
            widened left false (width.getD 0) [] (precision.elim s s.take)
          | 'c' =>
            let s := match value with
              | .number x => [Char.ofNat ((integerOf x).toNat % 256)]
              | value => (value.textIn number).take 1
            widened left false (width.getD 0) [] s
          | _ => laidOut layout conversion width precision value.float
        return shown ++ (← fill number fuel rest values)
    | (_, rest') =>
      let used := rest.take (rest.length - rest'.length)
      return '%' :: used ++ (← fill number fuel rest' values)
  | fuel + 1, c :: rest, values => do return c :: (← fill number fuel rest values)

/-! ## Cutting -/

/-- What separates fields or records. -/
inductive Separator where
  | blanks
  | nothing
  | char (c : Char)
  | regex (r : Regex)

/-- The separator that a text stands for, if it is one. -/
def Separator.ofText? : List Char → Option Separator
  | [] => some .nothing
  | [' '] => some .blanks
  | [c] => some (.char c)
  | s => (Regex.ofText? true s).map .regex

def cutAt (r : Regex) (text : Array Char) : (fuel start place : Nat) → List (List Char)
  | 0, start, _ => [(text.extract start text.size).toList]
  | fuel + 1, start, place =>
    match r.find? false text place with
    | none => [(text.extract start text.size).toList]
    | some found =>
      if found.last = found.first then
        if found.first < text.size then cutAt r text fuel start (found.first + 1)
        else [(text.extract start text.size).toList]
      else (text.extract start found.first).toList :: cutAt r text fuel found.last found.last

def Separator.cut (separator : Separator) (s : List Char) : List (List Char) :=
  if s.isEmpty then []
  else
    match separator with
    | .blanks => (s.splitBy fun a b => isNumberBlank a == isNumberBlank b).filter
        fun run => !run.head?.any isNumberBlank
    | .nothing => s.map ([·])
    | .char c => s.splitOn c
    | .regex r => cutAt r s.toArray (s.length + 1) 0 0

/-- The first record of a text, and what follows it. -/
def takeRecord (separator : Separator) (s : List Char) : Option (List Char × List Char) :=
  match separator with
  | .nothing =>
    let s := s.dropWhile (· == '\n')
    if s.isEmpty then none
    else
      match (Regex.ofText? true ['\n', '\n', '+']).bind (·.find? false s.toArray 0) with
      | some found => some (s.take found.first, s.drop found.last)
      | none => some (if s.getLast? == some '\n' then s.dropLast else s, [])
  | _ =>
    if s.isEmpty then none
    else
      match separator with
      | .regex r =>
        match r.find? false s.toArray 0 with
        | some found => some (s.take found.first, s.drop (max found.last 1))
        | none => some (if s.getLast? == some '\n' then s.dropLast else s, [])
      | .char c => some (s.takeWhile (· != c), (s.dropWhile (· != c)).tail)
      | _ => some (s.takeWhile (· != ' '), (s.dropWhile (· != ' ')).tail)

/-! ## Replacing -/

/-- The text that replaces a match. An ampersand stands for the match, unless a backslash is before
it. -/
def replacementText (matched : List Char) : List Char → List Char
  | '\\' :: '\\' :: '&' :: rest => '\\' :: matched ++ replacementText matched rest
  | '\\' :: '&' :: rest => '&' :: replacementText matched rest
  | '&' :: rest => matched ++ replacementText matched rest
  | c :: rest => c :: replacementText matched rest
  | [] => []

/-- Replace the first match of an expression from a place on, or all of them, and count them. An
empty match directly behind another one does not count. -/
def replaceFrom (r : Regex) (all : Bool) (replacement : List Char) (text : Array Char) :
    (fuel place : Nat) → (after : Bool) → List Char × Nat
  | 0, place, _ => ((text.extract place text.size).toList, 0)
  | fuel + 1, place, after =>
    match r.find? false text place with
    | none => ((text.extract place text.size).toList, 0)
    | some found =>
      let before := (text.extract place found.first).toList
      let matched := (text.extract found.first found.last).toList
      let next := (text[found.last]?).toList
      if matched.isEmpty && after && found.first = place then
        if next.isEmpty then ([], 0)
        else
          let (rest, count) := replaceFrom r all replacement text fuel (found.last + 1) false
          (next ++ rest, count)
      else
        let shown := before ++ replacementText matched replacement
        if !all then (shown ++ (text.extract found.last text.size).toList, 1)
        else if matched.isEmpty then
          if next.isEmpty then (shown, 1)
          else
            let (rest, count) := replaceFrom r all replacement text fuel (found.last + 1) false
            (shown ++ next ++ rest, count + 1)
        else
          let (rest, count) := replaceFrom r all replacement text fuel found.last true
          (shown ++ rest, count + 1)

/-! ## Tables -/

abbrev Table := List (List Char × Value)

/-- A checksum of a text, of 32 bits: each byte is mixed in, and the sum multiplied by a prime. -/
def checksum (s : List Char) : UInt32 :=
  s.foldl (fun sum c => (sum ^^^ c.toNat.toUInt32) * 16777619) 2166136261

/-- The keys of a table in the order in which they are visited: by the last bits of their checksums,
of which so many count that the table has about two keys for each number. -/
def visitOrder (table : Table) : List (List Char) :=
  let slots := (List.range 20).foldl (fun slots _ =>
    if 2 * slots < table.length then 2 * slots else slots) 64
  let slot (key : List Char) : Nat := (checksum key).toNat % slots
  (table.map Prod.fst).mergeSort fun a b => slot a ≤ slot b

end RackTraffic.Shell.Record
