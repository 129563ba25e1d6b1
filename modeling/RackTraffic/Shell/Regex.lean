import RackTraffic.Shell.Pattern

/-!
# Regular expressions

Tools that look for text know it by regular expressions. There are two ways to write them: in one a
group, a choice and a count are written with a backslash, in the other without.

Of all texts that match, the one that begins first is taken, and of those the longest. An expression
is matched by following all the ways in which it may go on, those first that repeat as often as
possible.

The characters of a text are bytes here.

Only the machine for scripts (`Shell.host`) needs this module, and only `Main` and test runs need
the machine; no result is about it.
-/

namespace RackTraffic.Shell

/-- A place in a text that has no width. -/
inductive Edge where
  | lineStart
  | lineEnd
  | wordStart
  | wordEnd
  | wordEdge (wanted : Bool)
  deriving DecidableEq, Repr

/-- A regular expression. -/
inductive Regex where
  | nothing
  | any
  | among (negated : Bool) (ranges : List CharRange)
  | edge (kind : Edge)
  | concat (a b : Regex)
  | either (a b : Regex)
  | repeated (a : Regex) (least : Nat) (most : Option Nat)
  | group (number : Nat) (a : Regex)
  | again (number : Nat)
  deriving Repr

namespace Regex

def exactly (c : Char) : Regex := .among false [.between c c]

/-! ## Matching -/

/-- How far a match has come, and the groups that it has passed, last ones first. -/
structure Progress where
  place : Nat
  groups : List (Nat × Nat × Nat) := []
  deriving Repr

def isWordChar (c : Char) : Bool := c.isAlphanum || c == '_'

def atEdge (text : Array Char) (place : Nat) : Edge → Bool
  | .lineStart => place == 0
  | .lineEnd => place == text.size
  | .wordStart => !before && after
  | .wordEnd => before && !after
  | .wordEdge wanted => (before != after) == wanted
where
  before : Bool := place != 0 && (text[place - 1]?).any isWordChar
  after : Bool := (text[place]?).any isWordChar

/-- Whether a character is in ranges. With `fold` its case does not count. -/
def inRanges (fold negated : Bool) (ranges : List CharRange) (c : Char) : Bool :=
  let has (c : Char) : Bool := ranges.any (·.has c)
  (has c || (fold && (has c.toLower || has c.toUpper))) != negated

/-- Repeat a step, as often as possible first. `fuel` bounds the number of times. -/
def iterate (step : Progress → List Progress) (least : Nat) (most : Option Nat) :
    (fuel count : Nat) → Progress → List Progress
  | 0, _, at_ => [at_]
  | fuel + 1, count, at_ =>
    let further :=
      if most.any (· ≤ count) then []
      else
        (step at_).flatMap fun next =>
          if next.place = at_.place && least ≤ count then []
          else iterate step least most fuel (count + 1) next
    if least ≤ count then further ++ [at_] else further

def ends (text : Array Char) (fold : Bool) : Regex → Progress → List Progress
  | .nothing, at_ => [at_]
  | .any, at_ => if at_.place < text.size then [{ at_ with place := at_.place + 1 }] else []
  | .among negated ranges, at_ =>
    match text[at_.place]? with
    | some c => if inRanges fold negated ranges c then [{ at_ with place := at_.place + 1 }] else []
    | none => []
  | .edge kind, at_ => if atEdge text at_.place kind then [at_] else []
  | .concat a b, at_ => (a.ends text fold at_).flatMap (b.ends text fold)
  | .either a b, at_ => a.ends text fold at_ ++ b.ends text fold at_
  | .repeated a least most, at_ =>
    iterate (a.ends text fold) least most (text.size + least + 1) 0 at_
  | .group number a, at_ =>
    (a.ends text fold at_).map fun next =>
      { next with groups := (number, at_.place, next.place) :: next.groups }
  | .again number, at_ =>
    match at_.groups.lookup number with
    | none => []
    | some (first, last) =>
      let wanted := text.extract first last
      if text.extract at_.place (at_.place + wanted.size) = wanted then
        [{ at_ with place := at_.place + wanted.size }]
      else []

/-- A text that matches, with the texts of its groups. -/
structure Found where
  first : Nat
  last : Nat
  groups : List (Nat × Nat × Nat)
  deriving Repr

def matchAt? (r : Regex) (fold : Bool) (text : Array Char) (place : Nat) : Option Found :=
  (r.ends text fold { place }).foldl (fun best next =>
    match best with
    | some found => if found.last < next.place then some ⟨place, next.place, next.groups⟩ else best
    | none => some ⟨place, next.place, next.groups⟩) none

def find? (r : Regex) (fold : Bool) (text : Array Char) (start : Nat) : Option Found :=
  (List.range (text.size + 1 - start)).findSome? fun n => r.matchAt? fold text (start + n)

/-! ## Reading -/

/-- What has been read of an expression: how many groups it has, and what follows. -/
structure Reading where
  groups : Nat
  rest : List Char

/-- The ranges of a bracket after its opening, and what follows it. -/
def takeBracket (s : List Char) : Option (Regex × List Char) :=
  let (negated, body) := match s with
    | '^' :: body => (true, body)
    | _ => (false, s)
  (takeRanges (body.length + 1) true (marksOf .plain body)).map fun (ranges, rest) =>
    (.among negated ranges, rest.map Mark.char)

def takeCounts (extended : Bool) (s : List Char) : Option (Nat × Option Nat × List Char) := do
  let number (digits : List Char) : Nat :=
    digits.foldl (fun n c => 10 * n + (c.toNat - '0'.toNat)) 0
  let (low, rest) := s.span Char.isDigit
  let (most, rest) := match rest with
    | ',' :: rest =>
      let (high, rest) := rest.span Char.isDigit
      (if high.isEmpty then none else some (number high), rest)
    | _ => (some (number low), rest)
  let rest ← match extended, rest with
    | true, '\x7d' :: rest => some rest
    | false, '\\' :: '\x7d' :: rest => some rest
    | _, _ => none
  if low.isEmpty && most.isNone then none
  return (number low, most, rest)

def escaped? : Char → Option Regex
  | 'w' => some (.among false [.named "alnum", .between '_' '_'])
  | 'W' => some (.among true [.named "alnum", .between '_' '_'])
  | 's' => some (.among false [.named "space"])
  | 'S' => some (.among true [.named "space"])
  | 'b' => some (.edge (.wordEdge true))
  | 'B' => some (.edge (.wordEdge false))
  | '<' => some (.edge .wordStart)
  | '>' => some (.edge .wordEnd)
  | '\x60' => some (.edge .lineStart)
  | '\'' => some (.edge .lineEnd)
  | 'n' => some (exactly '\n')
  | 't' => some (exactly '\t')
  | _ => none

/-- The operators of an expression. -/
inductive Operator where
  | opening
  | closing
  | bar
  | star
  | plus
  | question
  | brace
  deriving DecidableEq, Repr

/-- The operator at the start of an expression, and what follows it. -/
def takeOperator? (extended : Bool) : List Char → Option (Operator × List Char)
  | '*' :: rest => some (.star, rest)
  | '\\' :: c :: rest => if extended then none else (named c).map (·, rest)
  | c :: rest => if extended then (named c).map (·, rest) else none
  | [] => none
where
  named : Char → Option Operator
    | '(' => some .opening
    | ')' => some .closing
    | '|' => some .bar
    | '+' => some .plus
    | '?' => some .question
    | '\x7b' => some .brace
    | _ => none

def endsBranch (extended : Bool) (s : List Char) : Bool :=
  match takeOperator? extended s with
  | some (.closing, _) | some (.bar, _) => true
  | _ => s.isEmpty

def takeRepeats (extended : Bool) : (fuel : Nat) → Regex → List Char → Option (Regex × List Char)
  | 0, r, s => some (r, s)
  | fuel + 1, r, s =>
    match takeOperator? extended s with
    | some (.star, rest) => takeRepeats extended fuel (.repeated r 0 none) rest
    | some (.plus, rest) => takeRepeats extended fuel (.repeated r 1 none) rest
    | some (.question, rest) => takeRepeats extended fuel (.repeated r 0 (some 1)) rest
    | some (.brace, rest) =>
      match takeCounts extended rest with
      | some (least, most, rest) => takeRepeats extended fuel (.repeated r least most) rest
      | none => if extended then some (r, s) else none
    | _ => some (r, s)

mutual

/-- Branches of which one is to match. -/
def takeBranches (extended : Bool) : (fuel groups : Nat) → List Char → Option (Regex × Reading)
  | 0, _, _ => none
  | fuel + 1, groups, s => do
    let (a, reading) ← takeBranch extended fuel true groups s
    match takeOperator? extended reading.rest with
    | some (.bar, rest) =>
      let (b, reading) ← takeBranches extended fuel reading.groups rest
      return (.either a b, reading)
    | _ => return (a, reading)

def takeBranch (extended : Bool) : (fuel : Nat) → (first : Bool) → (groups : Nat) → List Char →
    Option (Regex × Reading)
  | 0, _, _, _ => none
  | fuel + 1, first, groups, s => do
    if endsBranch extended s then return (.nothing, ⟨groups, s⟩)
    let (a, reading) ← takePart extended fuel first groups s
    let isStart := first && !extended && s.head? == some '^'
    let (a, rest) ← if isStart then some (a, reading.rest)
      else takeRepeats extended reading.rest.length a reading.rest
    let (b, reading) ← takeBranch extended fuel isStart reading.groups rest
    return (.concat a b, reading)

def takePart (extended : Bool) : (fuel : Nat) → (first : Bool) → (groups : Nat) → List Char →
    Option (Regex × Reading)
  | 0, _, _, _ => none
  | fuel + 1, first, groups, s => do
    let plain (r : Regex) (rest : List Char) : Option (Regex × Reading) := some (r, ⟨groups, rest⟩)
    match takeOperator? extended s with
    | some (.opening, rest) =>
      let number := groups + 1
      let (a, reading) ← takeBranches extended fuel number rest
      let some (.closing, rest) := takeOperator? extended reading.rest | none
      return (.group number a, { reading with rest })
    | some (.closing, _) | some (.bar, _) => none
    | some (operator, rest) =>
      if extended && operator != .brace && !first then none
      else if !extended && operator == .brace then none
      else plain (exactly (if extended || operator == .star then (s.head?.getD '*')
        else (s.tail.head?.getD '*'))) rest
    | none =>
      match s with
      | [] => none
      | '.' :: rest => plain .any rest
      | '[' :: rest => do
        let (r, rest) ← takeBracket rest
        plain r rest
      | '^' :: rest =>
        if extended || first then plain (.edge .lineStart) rest else plain (exactly '^') rest
      | '$' :: rest =>
        if extended || endsBranch false rest then plain (.edge .lineEnd) rest
        else plain (exactly '$') rest
      | '\\' :: c :: rest =>
        if '1' ≤ c && c ≤ '9' then plain (.again (c.toNat - '0'.toNat)) rest
        else plain ((escaped? c).getD (exactly c)) rest
      | ['\\'] => none
      | c :: rest => plain (exactly c) rest

end

def ofText? (extended : Bool) (s : List Char) : Option Regex := do
  let (r, reading) ← takeBranches extended (4 * s.length + 4) 0 s
  if reading.rest.isEmpty then some r else none

end Regex

end RackTraffic.Shell
