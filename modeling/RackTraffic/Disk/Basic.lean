import RackTraffic.Disk.IoError
import RackTraffic.Disk.Path
import Std.Data.ExtTreeMap

/-!
# Disks

A disk is a finite map from *places* to entries. A place is the list of names on the way from the
root, innermost first, so that the place of a directory is the tail of the places of what it holds.
An entry is a directory or a regular file. There are no links, so every existing place has one
spelling, and two disks with the same entry at every place are equal.

A path is followed step by step. Every place that is passed must be a directory; the place it ends
at need not exist, because a path also says where something is to be made.

An operation that fails leaves the disk as it was: its type has no place for a changed disk in that
case.
-/

namespace RackTraffic

/-- The names from an entry up to the root. -/
abbrev Place := List String

/-- What a place holds. -/
inductive Entry where
  | directory
  | file (contents : ByteArray) (executable : Bool)

theorem Entry.file_eq_iff {bytes bytes' : ByteArray} {x x' : Bool} :
    file bytes x = file bytes' x' ↔ bytes.data = bytes'.data ∧ x = x' := by
  simp [ByteArray.ext_iff]

instance : DecidableEq Entry
  | .directory, .directory => isTrue rfl
  | .file .., .file .. => decidable_of_decidable_of_iff Entry.file_eq_iff.symm
  | .directory, .file .. | .file .., .directory => isFalse nofun

def Entry.isFile : Entry → Bool
  | .directory => false
  | .file .. => true

/-- The entries of a file system, and the current directory. -/
structure Disk where
  entries : Std.ExtTreeMap Place Entry
  current : Place

namespace Disk

/-- What is at a place. The root is always a directory. -/
def at? (d : Disk) : Place → Option Entry
  | [] => some .directory
  | place => d.entries[place]?

def put (d : Disk) (place : Place) (entry : Entry) : Disk :=
  { d with entries := d.entries.insert place entry }

def take (d : Disk) (place : Place) : Disk := { d with entries := d.entries.erase place }

theorem at?_put (d : Disk) (p q : Place) (e : Entry) (h : p ≠ []) :
    (d.put p e).at? q = if p = q then some e else d.at? q := by
  cases q with
  | nil => simp [at?, h]
  | cons n rest => simp [at?, put, Std.ExtTreeMap.getElem?_insert]

theorem at?_take (d : Disk) (p q : Place) (h : p ≠ []) :
    (d.take p).at? q = if p = q then none else d.at? q := by
  cases q with
  | nil => simp [at?, h]
  | cons n rest => simp [at?, take, Std.ExtTreeMap.getElem?_erase]

/-! ## Following paths -/

def maxNameBytes : Nat := 255

def maxPathBytes : Nat := 4095

/-- Follow steps from a place. -/
def walk (d : Disk) : Place → List Path.Step → Except IoError Place
  | place, [] => .ok place
  | place, step :: rest =>
    match d.at? place with
    | none => .error .notFound
    | some (.file ..) => .error .notADirectory
    | some .directory =>
      match step with
      | .stay => d.walk place rest
      | .up => d.walk place.tail rest
      | .down name =>
        if maxNameBytes < name.utf8ByteSize then .error .nameTooLong
        else d.walk (name :: place) rest

/-- The place at the end of a path, whether or not a slash after it is right. -/
def locate (d : Disk) (path : Path) : Except IoError Place := do
  if path.text = "" then throw .notFound
  if path.text.toList.contains '\x00' then throw .nullInPath
  if maxPathBytes < path.text.utf8ByteSize then throw .nameTooLong
  d.walk (if path.isAbsolute then [] else d.current) path.steps

def resolve (d : Disk) (path : Path) : Except IoError Place := do
  let place ← d.locate path
  match d.at? place with
  | some (.file ..) => if path.endsInSlash then throw .notADirectory else return place
  | _ => return place

def find (d : Disk) (path : Path) : Except IoError (Place × Entry) := do
  let place ← d.resolve path
  match d.at? place with
  | none => throw .notFound
  | some entry => return (place, entry)

/-- The path to a place from the root. -/
def pathTo (place : Place) : Path := ⟨"/" ++ "/".intercalate place.reverse⟩

/-! ## Looking -/

def contains (d : Disk) (path : Path) : Bool := (d.find path).toOption.isSome

def isDirectory (d : Disk) (path : Path) : Bool :=
  (d.find path).toOption.any fun (_, entry) => !entry.isFile

def isFile (d : Disk) (path : Path) : Bool :=
  (d.find path).toOption.any fun (_, entry) => entry.isFile

def read (d : Disk) (path : Path) : Except IoError ByteArray := do
  match ← d.find path with
  | (_, .directory) => throw .isADirectory
  | (_, .file contents _) => return contents

def readText (d : Disk) (path : Path) : Except IoError String := do
  match String.fromUTF8? (← d.read path) with
  | some text => return text
  | none => throw .notText

def children (d : Disk) (place : Place) : List (String × Entry) :=
  d.entries.toList.filterMap fun
    | (name :: above, entry) => if above = place then some (name, entry) else none
    | ([], _) => none

def list (d : Disk) (path : Path) : Except IoError (List (String × Entry)) := do
  match ← d.find path with
  | (place, .directory) => return d.children place
  | (_, .file ..) => throw .notADirectory

/-- The path from the root to what a path leads to. -/
def canonical (d : Disk) (path : Path) : Except IoError Path := do
  let (place, _) ← d.find path
  return pathTo place

/-! ## Changing -/

/-- Write a file, making it if it is not there. A file that is there keeps its other properties. -/
def write (d : Disk) (path : Path) (contents : ByteArray) : Except IoError Disk := do
  let place ← d.resolve path
  match d.at? place with
  | some .directory => throw .isADirectory
  | some (.file _ executable) => return d.put place (.file contents executable)
  | none =>
    if path.endsInSlash then throw .isADirectory
    match d.at? place.tail with
    | some .directory => return d.put place (.file contents false)
    | _ => throw .notFound

def removeFile (d : Disk) (path : Path) : Except IoError Disk := do
  match ← d.find path with
  | (_, .directory) => throw .isADirectory
  | (place, .file ..) => return d.take place

def makeDirectory (d : Disk) (path : Path) : Except IoError Disk := do
  let place ← d.locate path
  match d.at? place with
  | some _ => throw .alreadyExists
  | none =>
    match d.at? place.tail with
    | some .directory => return d.put place .directory
    | _ => throw .notFound

/-- The place of an entry after what is at `source` has moved to `target`. -/
def movedPlace (source target place : Place) : Place :=
  if source.isSuffixOf place then place.take (place.length - source.length) ++ target else place

/-- Move a directory with everything in it. -/
def moveTree (d : Disk) (source target : Place) : Disk :=
  { d with
    entries := .ofList (d.entries.toList.map fun (place, entry) =>
      (movedPlace source target place, entry)) }

/-- Move an entry to another path, replacing a file or an empty directory there. The path must end
in a name, since an entry cannot be made under a dot. -/
def rename (d : Disk) (source target : Path) : Except IoError Disk := do
  let (sourcePlace, entry) ← d.find source
  let targetPlace ← d.resolve target
  if !target.endsInName then throw .inUse
  if entry.isFile && target.endsInSlash then throw .notADirectory
  if sourcePlace = targetPlace then return d
  match entry, d.at? targetPlace with
  | .file .., some .directory => throw .isADirectory
  | .file .., _ => return (d.take sourcePlace).put targetPlace entry
  | .directory, some (.file ..) => throw .notADirectory
  | .directory, some .directory =>
    if sourcePlace.isSuffixOf targetPlace then throw .moveIntoSelf
    else if (d.children targetPlace).isEmpty then
      return (d.take targetPlace).moveTree sourcePlace targetPlace
    else throw .directoryNotEmpty
  | .directory, none =>
    if sourcePlace.isSuffixOf targetPlace then throw .moveIntoSelf
    else return d.moveTree sourcePlace targetPlace

end Disk

/-! ## Actions

Several operations in a row may fail midway. The disk then stays as the operations before the
failure have left it.
-/

/-- A computation on a disk that may fail. -/
abbrev DiskAction (ε α : Type) := ExceptT ε (StateM Disk) α

namespace DiskAction

variable {ε α : Type}

def look (f : Disk → Except ε α) : DiskAction ε α := fun d => (f d, d)

def change (f : Disk → Except ε Disk) : DiskAction ε Unit := fun d =>
  match f d with
  | .ok d' => (.ok (), d')
  | .error e => (.error e, d)

/-- Tell the failures of an action in other terms. -/
def mapFailure {ε' : Type} (f : ε → ε') (act : DiskAction ε α) : DiskAction ε' α := fun d =>
  let (r, d) := act d
  (r.mapError f, d)

end DiskAction

end RackTraffic
