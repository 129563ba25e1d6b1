/-!
# Patterns of the shell

A word is a *pattern* where a text is compared with it. A star then stands for any text, a question
mark for any character, and brackets for one of several characters. A quoted character stands for
itself, so patterns are made of *marks*, characters that know how they were written.

Only the machine for scripts (`Shell.host`) needs this module, and only `Main` and test runs need
the machine; no result is about it.
-/

namespace RackTraffic.Shell

/-- How a character of a word came there. -/
inductive Origin where
  | plain
  | quoted
  | value
  deriving DecidableEq, Repr

/-- A character of a word and how it came there. -/
structure Mark where
  char : Char
  origin : Origin
  deriving DecidableEq, Repr

def marksOf (origin : Origin) (s : List Char) : List Mark := s.map (⟨·, origin⟩)

def textOf (marks : List Mark) : String := String.ofList (marks.map Mark.char)

def Mark.isBare (mark : Mark) (c : Char) : Bool := mark.char == c && mark.origin != .quoted

/-! ## Pieces of patterns -/

/-- Some of the characters that brackets stand for. -/
inductive CharRange where
  | between (first last : Char)
  | named (name : String)
  deriving DecidableEq, Repr

def inClass (name : String) (c : Char) : Bool :=
  match name with
  | "alpha" => c.isAlpha
  | "digit" => c.isDigit
  | "alnum" => c.isAlphanum
  | "upper" => c.isUpper
  | "lower" => c.isLower
  | "space" => c == ' ' || ('\t' ≤ c && c ≤ '\r')
  | "blank" => c == ' ' || c == '\t'
  | "punct" => '!' ≤ c && c ≤ '~' && !c.isAlphanum
  | "print" => ' ' ≤ c && c ≤ '~'
  | "graph" => '!' ≤ c && c ≤ '~'
  | "cntrl" => c < ' ' || c == '\x7f'
  | "xdigit" => c.isDigit || ('a' ≤ c && c ≤ 'f') || ('A' ≤ c && c ≤ 'F')
  | _ => false

def CharRange.has (c : Char) : CharRange → Bool
  | .between first last => first ≤ c && c ≤ last
  | .named name => inClass name c

/-- A piece of a pattern. -/
inductive Glob where
  | many
  | one
  | among (negated : Bool) (ranges : List CharRange)
  deriving DecidableEq, Repr

def Glob.exactly (c : Char) : Glob := .among false [.between c c]

def takeClass : List Mark → Option (List Char × List Mark)
  | ⟨':', _⟩ :: ⟨']', _⟩ :: rest => some ([], rest)
  | ⟨c, _⟩ :: rest =>
    if c.isAlpha then (takeClass rest).map fun (name, rest) => (c :: name, rest) else none
  | [] => none

/-- The ranges between brackets, up to the closing one, and what follows it. A bracket that comes
first does not close them. `fuel` bounds the number of ranges. -/
def takeRanges : (fuel : Nat) → (first : Bool) → List Mark → Option (List CharRange × List Mark)
  | 0, _, _ | _, _, [] => none
  | fuel + 1, first, mark :: rest => do
    if mark.isBare ']' && !first then return ([], rest)
    if mark.isBare '[' && (rest.head?.any (·.char == ':')) then
      if let some (name, rest) := takeClass rest.tail then
        let (ranges, rest) ← takeRanges fuel false rest
        return (.named (String.ofList name) :: ranges, rest)
    match rest with
    | dash :: last :: after =>
      if dash.isBare '-' && !last.isBare ']' then
        let (ranges, rest) ← takeRanges fuel false after
        return (.between mark.char last.char :: ranges, rest)
    | _ => pure ()
    let (ranges, rest) ← takeRanges fuel false rest
    return (.between mark.char mark.char :: ranges, rest)

/-- The pattern that marks stand for. A backslash in a value takes the meaning from the next
character. `fuel` bounds the number of pieces. -/
def globOf : (fuel : Nat) → List Mark → List Glob
  | 0, _ | _, [] => []
  | fuel + 1, ⟨c, .quoted⟩ :: rest => .exactly c :: globOf fuel rest
  | fuel + 1, ⟨'*', _⟩ :: rest => .many :: globOf fuel rest
  | fuel + 1, ⟨'?', _⟩ :: rest => .one :: globOf fuel rest
  | fuel + 1, ⟨'[', _⟩ :: rest =>
    let negated := rest.head?.any fun mark => mark.isBare '!' || mark.isBare '^'
    match takeRanges fuel true (if negated then rest.tail else rest) with
    | some (ranges, after) => .among negated ranges :: globOf fuel after
    | none => .exactly '[' :: globOf fuel rest
  | fuel + 1, ⟨'\\', .value⟩ :: ⟨c, _⟩ :: rest => .exactly c :: globOf fuel rest
  | fuel + 1, ⟨c, _⟩ :: rest => .exactly c :: globOf fuel rest

/-! ## Matching -/

def Glob.accepts : Glob → Char → Bool
  | .many, _ | .one, _ => true
  | .among negated ranges, c => ranges.any (·.has c) != negated

def globMatches : List Glob → List Char → Bool
  | [], s => s.isEmpty
  | .many :: rest, [] => globMatches rest []
  | .many :: rest, c :: s => globMatches rest (c :: s) || globMatches (.many :: rest) s
  | _ :: _, [] => false
  | g :: rest, c :: s => g.accepts c && globMatches rest s
termination_by pattern s => pattern.length + s.length

def patternMatches (pattern : List Mark) (s : List Char) : Bool :=
  globMatches (globOf pattern.length pattern) s

/-- Whether marks are more than a text: they stand for several texts. -/
def isPattern (marks : List Mark) : Bool :=
  marks.any fun mark => ['*', '?', '['].any mark.isBare

def cutStart (longest : Bool) (pattern : List Mark) (s : List Char) : List Char :=
  let glob := globOf pattern.length pattern
  let lengths := List.range (s.length + 1)
  let found := (if longest then lengths.reverse else lengths).find? fun n =>
    globMatches glob (s.take n)
  s.drop (found.getD 0)

def cutEnd (longest : Bool) (pattern : List Mark) (s : List Char) : List Char :=
  let glob := globOf pattern.length pattern
  let lengths := List.range (s.length + 1)
  let found := (if longest then lengths else lengths.reverse).find? fun n =>
    globMatches glob (s.drop n)
  s.take (found.getD s.length)

end RackTraffic.Shell
