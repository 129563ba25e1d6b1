import RackTraffic.Disk.Basic
import RackTraffic.Shell.Pattern

/-!
# Fields

A word of a command stands for any number of *fields*, the texts that the command gets. First its
pieces are replaced by fragments: marked characters, and notes that a field is there or that another
one begins. Then the characters that come from values are split at separators. Last, a field that is
a pattern is replaced by the paths that match it, if there are any.

Only the machine for scripts (`Shell.host`) needs this module, and only `Main` and test runs need
the machine; no result is about it.
-/

namespace RackTraffic.Shell

/-- A fragment of a word after its parameters have been replaced. -/
inductive Fragment where
  | mark (mark : Mark)
  | present
  | next
  deriving DecidableEq, Repr

def fragmentsOf (origin : Origin) (s : List Char) : List Fragment :=
  (marksOf origin s).map .mark

/-! ## Splitting -/

/-- Fields that are complete, the last one first, and the one that is being made, from its end. -/
structure Fields where
  complete : List (List Mark) := []
  open? : Option (List Mark) := none
  blankEnd : Bool := false

namespace Fields

/-- Complete the field that is being made, if there is one. -/
def close (f : Fields) (blankEnd : Bool) : Fields where
  complete := f.open?.elim f.complete (·.reverse :: f.complete)
  blankEnd := blankEnd

/-- Whether a separator is a blank: several of them count as one, and at the ends they count for
nothing. -/
def isBlankSeparator (c : Char) : Bool := c == ' ' || c == '\t' || c == '\n'

def add (separators : List Char) (f : Fields) : Fragment → Fields
  | .present => { f with open? := some (f.open?.getD []), blankEnd := false }
  | .next => f.close false
  | .mark mark =>
    if mark.origin == .value && separators.contains mark.char then
      match f.open? with
      | some _ => f.close (isBlankSeparator mark.char)
      | none =>
        if isBlankSeparator mark.char then f
        else if f.blankEnd then { f with blankEnd := false }
        else { f with complete := [] :: f.complete }
    else { f with open? := some (mark :: f.open?.getD []), blankEnd := false }

end Fields

def fieldsOf (separators : List Char) (fragments : List Fragment) : List (List Mark) :=
  ((fragments.foldl (Fields.add separators) {}).close false).complete.reverse

/-! ## Paths -/

def partsOf (pattern : List Mark) : List (List Mark) := pattern.splitOnP (·.char == '/')

/-- The names in a directory that match a pattern. Names that start with a dot are left out unless
the pattern starts with one. -/
def matchingNames (d : Disk) (directory : String) (pattern : List Mark) : List String :=
  let path : Path := if directory = "" then ⟨"."⟩ else ⟨directory⟩
  match d.list path with
  | .error _ => []
  | .ok entries =>
    let names := "." :: ".." :: entries.map Prod.fst
    names.filter fun name =>
      (!name.startsWith "." || pattern.head?.any (·.char == '.')) &&
        patternMatches pattern name.toList

def pathsAfter (d : Disk) : (starts : List String) → List (List Mark) → List String
  | starts, [] => starts
  | starts, part :: rest =>
    let slash := if rest.isEmpty then "" else "/"
    let found :=
      if isPattern part then
        starts.flatMap fun start => (matchingNames d start part).map (start ++ · ++ slash)
      else starts.map (· ++ textOf part ++ slash)
    pathsAfter d found rest

/-- The texts that a field stands for: the paths that match it, or itself. -/
def pathsOf (d : Disk) (field : List Mark) : List String :=
  if isPattern field then
    let found := (pathsAfter d [""] (partsOf field)).filter fun path => d.contains ⟨path⟩
    if found.isEmpty then [textOf field] else found.mergeSort fun a b => a ≤ b
  else [textOf field]

end RackTraffic.Shell
