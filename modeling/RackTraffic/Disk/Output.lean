import RackTraffic.Disk.Basic

/-!
# Writing output

Output goes into a directory that is made for it, or into one that exists if the caller allows that.

A file is written *atomically*: its contents go to a temporary file in the same directory, which is
then renamed to it. So the file either holds the complete contents or is what it was before, and if
the last step fails the temporary file is removed.
-/

namespace RackTraffic

inductive OutputFault where
  | exists (path : Path)
  | notADirectory (path : Path)
  | io (error : IoError)
  deriving DecidableEq, Repr

def OutputFault.message : OutputFault → String
  | .exists path => "output directory " ++ path.text ++ " already exists"
  | .notADirectory path => path.text ++ " exists and is not a directory"
  | .io error => error.message

namespace Disk

/-- Make a directory and the ones above it that are missing, from the path `parents.head` up. A
directory that is there already is no failure. -/
def makeDirectories : (parents : List Path) → DiskAction IoError Unit
  | [] => throw (.other "failed to create whole tree")
  | path :: above => do
    if path.text = "" then return
    match (← get).makeDirectory path with
    | .ok d => set d
    | .error .notFound =>
      makeDirectories above
      makeOne path
    | .error e => if (← get).isDirectory path then return else throw e
where
  makeOne (path : Path) : DiskAction IoError Unit := do
    match (← get).makeDirectory path with
    | .ok d => set d
    | .error e => if (← get).isDirectory path then return else throw e

/-- A path and the paths to the directories above it, `count` of them at most. -/
def ancestors : (count : Nat) → Path → List Path
  | 0, path => [path]
  | count + 1, path =>
    match path.parent? with
    | none => [path]
    | some parent => path :: ancestors count parent

def makeDirectoryTree (path : Path) : DiskAction IoError Unit :=
  makeDirectories (ancestors path.parts.length path)

/-- Make sure that an output directory exists. -/
def prepareOutput (path : Path) (allowExisting : Bool) : DiskAction OutputFault Unit := do
  let d ← get
  if d.contains path then
    if !d.isDirectory path then throw (.notADirectory path)
    if !allowExisting then throw (.exists path)
  else (makeDirectoryTree path).mapFailure .io

/-! ## Atomic writes -/

def temporaryName (n : Nat) : String := ".tmp" ++ toString n

/-- How many names for temporary files there are: six characters, each of 62. -/
def maxTemporaries : Nat := Nat.pow 62 6

/-- The first name for a temporary file that is not among given ones. Of one more number than there
are names, at least one is free. -/
def freshName? (names : List String) : Option String :=
  ((List.range (min (names.length + 1) maxTemporaries)).find? fun n =>
    !names.contains (temporaryName n)).map temporaryName

def makeTemporary (directory : Path) : DiskAction IoError Path := do
  let entries ← DiskAction.look (·.list directory)
  match freshName? (entries.map Prod.fst) with
  | none => throw .alreadyExists
  | some name =>
    let temporary := directory.join name
    DiskAction.change (·.write temporary .empty)
    return temporary

/-- Write a file so that it is complete or unchanged. -/
def writeAtomic (path : Path) (contents : String) : DiskAction IoError Unit := do
  let temporary ← makeTemporary path.directory
  DiskAction.change (·.write temporary contents.toUTF8)
  match (← get).rename temporary path with
  | .ok d => set d
  | .error e =>
    DiskAction.change (·.removeFile temporary)
    throw e

end Disk

end RackTraffic
