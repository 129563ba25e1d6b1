/-!
# Words of the shell

A word of a script is written with quotes, parameters and embedded commands. What matters of it is
kept as a list of pieces. A piece knows whether quotes surround it, because an unquoted value is
split at blanks and a quoted one is not. An empty pair of quotes makes a word even if nothing else
does.

Only the machine for scripts (`Shell.host`) needs this module, and only `Main` and test runs need
the machine; no result is about it.
-/

namespace RackTraffic.Shell

/-- What is done with the value of a parameter. `orEmpty` says that an empty value counts as none.
-/
inductive Adjustment where
  | trimStart (longest : Bool)
  | trimEnd (longest : Bool)
  /-- Take another value if there is none. -/
  | fallback (orEmpty : Bool)
  /-- Assign another value if there is none. -/
  | assign (orEmpty : Bool)
  /-- Fail if there is no value. -/
  | demand (orEmpty : Bool)
  /-- Take another value if there is one. -/
  | instead (orEmpty : Bool)
  deriving DecidableEq, Repr

def Adjustment.isTrim : Adjustment → Bool
  | .trimStart _ | .trimEnd _ => true
  | _ => false

/-- A piece of a word. -/
inductive Piece where
  | char (c : Char) (quoted : Bool)
  | value (name : String) (quoted : Bool) (adjusted : Option (Adjustment × List Piece))
  | length (name : String) (quoted : Bool)
  /-- What a script prints whose text starts at a line. -/
  | command (line : Nat) (text : String) (quoted : Bool)
  | arithmetic (expression : List Piece) (quoted : Bool)
  | unfit
  | quotes
  deriving Repr

abbrev Word := List Piece

def bareText? (word : Word) : Option String :=
  let bareChar? : Piece → Option Char
    | .char c false => some c
    | _ => none
  (word.mapM bareChar?).map String.ofList

/-- The text of a word in which quotes are undone and nothing else. -/
def unquotedText (word : Word) : String :=
  String.ofList (word.filterMap fun
    | .char c _ => some c
    | _ => none)

def hasQuotes (word : Word) : Bool :=
  word.any fun
    | .char _ quoted => quoted
    | .quotes => true
    | _ => false

def plainWord (text : String) : Word := text.toList.map (.char · false)

/-! ## Names -/

def isNameChar (c : Char) : Bool := c.isAlphanum || c == '_'

def isName (s : List Char) : Bool :=
  s.all isNameChar && s.head?.any (!·.isDigit)

def isSpecial (c : Char) : Bool := ['@', '*', '#', '?', '$', '!', '-'].contains c

/-- The name of a parameter at the start of a text. A number of several digits is a name only
between braces. -/
def takeName (braced : Bool) (s : List Char) : Option (String × List Char) :=
  match s with
  | [] => none
  | c :: rest =>
    if isSpecial c then some (c.toString, rest)
    else
      let (name, after) := s.span fun d => if c.isDigit then d.isDigit else isNameChar d
      if name = [] then none
      else if c.isDigit && !braced then some (c.toString, rest)
      else some (String.ofList name, after)

end RackTraffic.Shell
