import RackTraffic.Shell.Printing
import RackTraffic.Shell.Tool.Basic

/-!
# Tools for values

The tools that print what they compute from their words alone: names of paths, sequences of numbers,
and values of expressions.

Only the machine for scripts (`Shell.host`) needs this module, and only `Main` and test runs need
the machine; no result is about it.
-/

namespace RackTraffic.Shell

open Effect

/-! ## Names -/

def withoutSlashes (s : List Char) : List Char := (s.reverse.dropWhile (· == '/')).reverse

def baseName (path ending : String) : String :=
  let s := withoutSlashes path.toList
  if s.isEmpty then (if path.isEmpty then "" else "/")
  else
    let base := (s.reverse.takeWhile (· != '/')).reverse
    if ending.toList.isSuffixOf base && ending.length < base.length then
      String.ofList (base.take (base.length - ending.length))
    else String.ofList base

def directoryName (path : String) : String :=
  let s := withoutSlashes path.toList
  let rest := s.reverse.dropWhile (· != '/')
  let above := withoutSlashes rest.reverse
  if !above.isEmpty then String.ofList above
  else if path.startsWith "/" then "/"
  else "."

def basename : Tool := fun name words =>
  let letters : Options.Letters := { plain := "az", withArgument := "s" }
  match Options.read letters false words with
  | .error fault => refuse name fault 1
  | .ok o => do
    let several := o.has 'a' || o.has 's'
    match o.operands with
    | [] => refuse name .missingOperand 1
    | path :: rest =>
      if several then
        for path in o.operands do printLine (baseName path ((o.last? 's').getD ""))
        done 0
      else
        match rest with
        | _ :: extra :: _ => refuse name (.extraOperand extra) 1
        | _ =>
          printLine (baseName path (rest.head?.getD ""))
          done 0

def dirname : Tool :=
  withOptions { plain := "z" } 1 fun name o => do
    if o.operands.isEmpty then
      refuse name .missingOperand 1
      return
    let ending := if o.has 'z' then ['\x00'] else ['\n']
    for path in o.operands do write 1 ((directoryName path).toUTF8 ++ bytesOf ending)
    done 0

/-! ## Sequences -/

/-- A decimal number: its digits as an integer, and how many of them follow the point. -/
structure Decimals where
  value : Int
  places : Nat
  deriving Repr

def Decimals.ofText? (text : String) : Option Decimals :=
  let (negative, s) := Decimal.takeSign text.toList
  let (whole, rest) := s.span Char.isDigit
  let fraction? : Option (List Char) := match rest with
    | [] => some []
    | '.' :: rest => if rest.all Char.isDigit then some rest else none
    | _ => none
  match fraction? with
  | none => none
  | some fraction =>
    if whole.isEmpty && fraction.isEmpty then none
    else
      let n : Int := numberIn (whole ++ fraction)
      some ⟨if negative then -n else n, fraction.length⟩

def Decimals.scaled (d : Decimals) (places : Nat) : Int := d.value * Int.pow 10 (places - d.places)

def decimalText (places width : Nat) (n : Int) : String :=
  let digits := Decimal.padded (places + 1) (Nat.toDigits 10 n.natAbs)
  let whole := digits.take (digits.length - places)
  let body := whole ++ Decimal.pointed false (digits.drop whole.length)
  let sign := if n < 0 then ['-'] else []
  String.ofList (widened false true width sign body)

def stepsFrom (step last : Int) : (fuel : Nat) → Int → List Int
  | 0, _ => []
  | fuel + 1, n =>
    if (0 < step && last < n) || (step < 0 && n < last) then []
    else n :: stepsFrom step last fuel (n + step)

def seq : Tool := fun name words =>
  let isNumber (word : String) : Bool := (Decimals.ofText? word).isSome
  let isNegative (word : String) : Bool := word.startsWith "-" && isNumber word
  let options := words.takeWhile (!isNegative ·)
  let numbers := words.drop options.length
  let letters : Options.Letters :=
    { plain := "w", withArgument := "sf", long := [("separator", 's')] }
  match Options.read letters false options with
  | .error fault => refuse name fault 1
  | .ok o => do
    let operands := o.operands ++ numbers
    if let some extra := operands[3]? then
      refuse name (.extraOperand extra) 1
      return
    if let some word := operands.find? (!isNumber ·) then
      refuse name (.other ("invalid floating point argument: '" ++ word ++ "'")) 1
      return
    let one : Decimals := ⟨1, 0⟩
    let read (word : String) : Decimals := (Decimals.ofText? word).getD one
    match operands with
    | [] => refuse name .missingOperand 1
    | _ =>
      let (first, step, last) := match operands with
        | [a, b, c] => (read a, read b, read c)
        | [a, b] => (read a, one, read b)
        | a :: _ => (one, one, read a)
        | [] => (one, one, one)
      if step.value = 0 then
        refuse name (.other ("invalid Zero increment value: '" ++ (operands[1]?.getD "") ++ "'")) 1
        return
      let shown := max first.places step.places
      let places := max shown last.places
      let low := first.scaled places
      let stride := step.scaled places
      let high := last.scaled places
      let count := ((high - low) / stride + 1).toNat
      let unit := Int.pow 10 (places - shown)
      let values := (stepsFrom stride high (count + 1) low).map fun n => n / unit
      let width := if o.has 'w' then
          ((values.map fun n => (decimalText shown 0 n).length).foldl max 0)
        else 0
      let texts := values.map (decimalText shown width)
      let texts := match o.last? 'f' with
        | none => texts
        | some format => texts.map fun text =>
          ((String.fromUTF8? (Printing.ofFormat .program format [text]).bytes).getD "")
      if !texts.isEmpty then printLine ((((o.last? 's').getD "\n").intercalate texts))
      done 0

/-- Print a line again and again, until nobody reads any more. More than a buffer is never read. -/
def yes : Tool := fun _ words => do
  let line := if words.isEmpty then "y" else " ".intercalate words
  for _ in [0:65536 / (line.utf8ByteSize + 1) + 1] do printLine line
  done 141

/-! ## Expressions -/

/-- Why an expression of words has no value. -/
inductive ExpressionFault where
  | missingAfter (word : String)
  | extra (word : String)
  | expecting (what after : String)
  | notInteger
  | division
  deriving DecidableEq, Repr

def ExpressionFault.message : ExpressionFault → String
  | .missingAfter word => "syntax error: missing argument after '" ++ word ++ "'"
  | .extra word => "syntax error: unexpected argument '" ++ word ++ "'"
  | .expecting what after => "syntax error: expecting '" ++ what ++ "' after '" ++ after ++ "'"
  | .notInteger => "non-integer argument"
  | .division => "division by zero"

def wordInteger? (word : String) : Option Int :=
  let (negative, digits) := match word.toList with
    | '-' :: rest => (true, rest)
    | s => (false, s)
  if digits.isEmpty || !digits.all Char.isDigit then none
  else
    let n : Int := numberIn digits
    some (if negative then -n else n)

def isNull (word : String) : Bool :=
  word.isEmpty || (wordInteger? word == some 0)

/-- What the start of a text matches: its first group, or its length. -/
def startMatch (word pattern : String) : String :=
  let text := (rawChars word).toArray
  let hasGroup := (pattern.splitOn "\\(").length != 1
  match (Regex.ofText? false (rawChars pattern)).bind fun r => r.matchAt? false text 0 with
  | none => if hasGroup then "" else "0"
  | some found =>
    if hasGroup then
      let (first, last) := (found.groups.lookup 1).getD (0, 0)
      (String.fromUTF8? (bytesOf (text.extract first last).toList)).getD ""
    else toString found.last

/-- The levels of operators in expressions of words, those that bind least first. -/
def expressionLevels : List (List String) :=
  [["|"], ["&"], ["<", "<=", "=", "==", "!=", ">=", ">"], ["+", "-"], ["*", "/", "%"], [":"]]

def combineWords (operator a b : String) : Except ExpressionFault String := do
  let truth (b : Bool) : String := if b then "1" else "0"
  match operator with
  | "|" => return if !isNull a then a else if !isNull b then b else "0"
  | "&" => return if isNull a || isNull b then "0" else a
  | ":" => return startMatch a b
  | "+" | "-" | "*" | "/" | "%" =>
    match wordInteger? a, wordInteger? b with
    | some m, some n =>
      if (operator = "/" || operator = "%") && n = 0 then throw .division
      return toString (match operator with
        | "+" => m + n
        | "-" => m - n
        | "*" => m * n
        | "/" => m.tdiv n
        | _ => m.tmod n)
    | _, _ => throw .notInteger
  | _ =>
    let found := match wordInteger? a, wordInteger? b with
      | some m, some n => compare m n
      | _, _ => compareTexts (rawChars a) (rawChars b)
    return truth (match operator with
      | "<" => found == .lt
      | "<=" => found != .gt
      | "=" | "==" => found == .eq
      | "!=" => found != .eq
      | ">=" => found != .lt
      | _ => found == .gt)

mutual

/-- The value of operands joined by operators of the given levels. `last` is the word before. -/
def expressionValue : (fuel : Nat) → List (List String) → (last : String) → List String →
    Except ExpressionFault (String × String × List String)
  | 0, _, last, _ => throw (.missingAfter last)
  | fuel + 1, [], last, ws => expressionOperand fuel last ws
  | fuel + 1, level :: tighter, last, ws => do
    let (a, last, ws) ← expressionValue fuel tighter last ws
    expressionAfter fuel level tighter a last ws

def expressionAfter : (fuel : Nat) → List String → List (List String) → (a last : String) →
    List String → Except ExpressionFault (String × String × List String)
  | 0, _, _, _, last, _ => throw (.missingAfter last)
  | fuel + 1, level, tighter, a, last, ws => do
    match ws with
    | operator :: ws' =>
      if level.contains operator then
        let (b, last, ws) ← expressionValue fuel tighter operator ws'
        expressionAfter fuel level tighter (← combineWords operator a b) last ws
      else return (a, last, ws)
    | [] => return (a, last, [])

def expressionOperand : (fuel : Nat) → (last : String) → List String →
    Except ExpressionFault (String × String × List String)
  | 0, last, _ => throw (.missingAfter last)
  | fuel + 1, last, ws => do
    match ws with
    | [] => throw (.missingAfter last)
    | "(" :: ws =>
      let (a, last, ws) ← expressionValue fuel expressionLevels "(" ws
      match ws with
      | ")" :: ws => return (a, ")", ws)
      | _ => throw (.expecting ")" last)
    | "+" :: word :: ws => return (word, word, ws)
    | "length" :: ws =>
      let (a, last, ws) ← expressionOperand fuel "length" ws
      return (toString a.utf8ByteSize, last, ws)
    | "match" :: ws =>
      let (a, last, ws) ← expressionOperand fuel "match" ws
      let (b, last, ws) ← expressionOperand fuel last ws
      return (startMatch a b, last, ws)
    | "index" :: ws =>
      let (a, last, ws) ← expressionOperand fuel "index" ws
      let (b, last, ws) ← expressionOperand fuel last ws
      let place := a.toList.findIdx? b.toList.contains
      return (toString (place.elim 0 (· + 1)), last, ws)
    | "substr" :: ws =>
      let (a, last, ws) ← expressionOperand fuel "substr" ws
      let (b, last, ws) ← expressionOperand fuel last ws
      let (c, last, ws) ← expressionOperand fuel last ws
      match wordInteger? b, wordInteger? c with
      | some first, some count =>
        if first ≤ 0 || count ≤ 0 then return ("", last, ws)
        return (String.ofList ((a.toList.drop (first.toNat - 1)).take count.toNat), last, ws)
      | _, _ => return ("", last, ws)
    | word :: ws => return (word, word, ws)

end

def expr : Tool := fun name words => do
  let words := if words.head? = some "--" then words.tail else words
  if words.isEmpty then
    refuse name .missingOperand 2
    return
  let value : Except ExpressionFault String := do
    let (value, _, rest) ← expressionValue (16 * words.length + 16) expressionLevels "" words
    match rest with
    | [] => return value
    | word :: _ => throw (.extra word)
  match value with
  | .ok value =>
    printLine value
    done (if isNull value then 1 else 0)
  | .error fault =>
    say name fault.message
    done 2

end RackTraffic.Shell
