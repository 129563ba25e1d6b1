/-!
# Paths

A path is a text in which slashes separate names. It is kept as it was written, because messages
show it so: joining a name to a path only appends it, and nothing is tidied up.

What a path says is taken from it in two ways. Its *parts* are its names, without empty ones and
without dots that stand for the directory itself; the last part, the parent and the extension are
defined on them. Its *steps* say how it is followed from a directory, one step for each name.
-/

namespace RackTraffic

structure Path where
  text : String
  deriving DecidableEq, Repr, Inhabited

namespace Path

def isAbsolute (p : Path) : Bool := p.text.toList.head? == some '/'

/-- A path to `name` in the directory `p`. An absolute name stands for itself. -/
def join (p : Path) (name : String) : Path :=
  if name.toList.head? = some '/' then ⟨name⟩
  else if p.text.toList = [] ∨ p.text.toList.getLast? = some '/' then ⟨p.text ++ name⟩
  else ⟨p.text ++ "/" ++ name⟩

def pieces (p : Path) : List String := (p.text.toList.splitOn '/').map String.ofList

/-! ## Parts -/

/-- A part of a path. -/
inductive Part where
  | root
  /-- The directory that a relative path starts from, if the path says so. -/
  | here
  | above
  | name (text : String)
  deriving DecidableEq, Repr

def partOfPiece? (piece : String) : Option Part :=
  if piece = "" ∨ piece = "." then none
  else if piece = ".." then some .above
  else some (.name piece)

/-- The parts of a path. A dot counts only at the start of a relative path. -/
def parts (p : Path) : List Part :=
  let rest := p.pieces.filterMap partOfPiece?
  if p.isAbsolute then .root :: rest
  else if p.pieces.head? = some "." then .here :: rest
  else rest

def Part.text : Part → String
  | .root => ""
  | .here => "."
  | .above => ".."
  | .name text => text

def ofParts : List Part → Path
  | [.root] => ⟨"/"⟩
  | parts => ⟨"/".intercalate (parts.map Part.text)⟩

def fileName? (p : Path) : Option String :=
  match p.parts.getLast? with
  | some (.name text) => some text
  | _ => none

/-- The path without its last part; nothing if there is no part to leave out. -/
def parent? (p : Path) : Option Path :=
  match p.parts.getLast? with
  | none | some .root => none
  | _ => some (ofParts p.parts.dropLast)

/-- The directory that a path leads to a place in: its parent, or the current directory if the
parent is not written. -/
def directory (p : Path) : Path :=
  match p.parent? with
  | some parent => if parent.text = "" then ⟨"."⟩ else parent
  | none => ⟨"."⟩

/-- What follows the last dot of the last part. A dot at the start of it does not count. -/
def extension? (p : Path) : Option String :=
  match p.fileName? with
  | none => none
  | some name =>
    let after := name.toList.reverse.takeWhile (· ≠ '.')
    let before := name.toList.reverse.drop (after.length + 1)
    if before = [] then none else some (String.ofList after.reverse)

/-! ## Steps -/

inductive Step where
  | stay
  | up
  | down (name : String)
  deriving DecidableEq, Repr

def stepOfPiece? (piece : String) : Option Step :=
  if piece = "" then none
  else if piece = "." then some .stay
  else if piece = ".." then some .up
  else some (.down piece)

def steps (p : Path) : List Step := p.pieces.filterMap stepOfPiece?

/-- Whether a path ends in a slash, which only the path of a directory may do. -/
def endsInSlash (p : Path) : Bool := p.text.toList.getLast? == some '/'

def endsInName (p : Path) : Bool :=
  match p.steps.getLast? with
  | some (.down _) => true
  | _ => false

end Path

end RackTraffic
