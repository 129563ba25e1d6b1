import RackTraffic.CommandLine.Execution
import RackTraffic.Disk.Change
import RackTraffic.Shell.Host

/-!
# The program

The command line on a real machine. A command works on a copy of the part of the machine's disk that
its arguments speak of; when it has ended, the changes are carried over. If it asks a question, it
is executed up to the question first, and again when the answer is known.

Simulators are run by the library's own host. A file counts as executable if it names an
interpreter.
-/

namespace RackTraffic

def placeOnMachine? (path : String) : IO (Option Place) := do
  try
    let real ← IO.FS.realPath path
    let _ ← real.metadata
    return some ((real.toString.splitOn "/").filter (· ≠ "")).reverse
  catch _ => return none

/-- What is at a place of the machine, and below it down to a depth. Links are left out. -/
def loadTree : (depth : Nat) → Place → IO (List (Place × Entry))
  | 0, _ => return []
  | depth + 1, place => do
    let path ← IO.FS.realPath (Disk.pathTo place).text
    match (← path.symlinkMetadata).type with
    | .file =>
      let contents ← IO.FS.readBinFile path
      return [(place, .file contents (Shell.interpreter? contents).isSome)]
    | .dir =>
      let mut found := [(place, Entry.directory)]
      for entry in ← path.readDir do
        found := found ++ (← loadTree depth (entry.fileName :: place))
      return found
    | _ => return []

def maxTreeDepth : Nat := 64

def directoriesAbove (place : Place) : List (Place × Entry) :=
  (List.range (place.length - 1)).map fun n => (place.drop (n + 1), .directory)

/-- What a path leads to, or the directory that it would be made in. -/
def loadPath (path : Path) : IO (List (Place × Entry)) := do
  match ← placeOnMachine? path.text with
  | some place => return directoriesAbove place ++ (← loadTree maxTreeDepth place)
  | none =>
    let above := (Disk.ancestors path.parts.length path).tail
    for directory in above ++ [⟨"."⟩] do
      let text := if directory.text = "" then "." else directory.text
      if let some place ← placeOnMachine? text then
        let entries ← loadTree 1 place
        return directoriesAbove place ++ entries
    return []

/-- The disk that a command needs. -/
def loadDisk (arguments : List String) : IO Disk := do
  let current := (← placeOnMachine? ".").getD []
  let mut entries := (current, .directory) :: directoriesAbove current
  if let some invocation := CommandLine.Invocation.ofArguments? arguments then
    for path in invocation.paths do
      entries := entries ++ (← loadPath path)
    if let .run _ _ (some file) _ _ := invocation then
      let disk : Disk := { entries := .ofList entries, current }
      if let .ok settings := disk.readSettings file then
        for path in settings.home.toList do
          entries := entries ++ (← loadPath path)
  return { entries := .ofList entries, current }

def DiskChange.apply : DiskChange → IO Unit
  | .remove place .directory => IO.FS.removeDir (Disk.pathTo place).text
  | .remove place (.file ..) => IO.FS.removeFile (Disk.pathTo place).text
  | .make place .directory => IO.FS.createDir (Disk.pathTo place).text
  | .make place (.file contents _) => IO.FS.writeBinFile (Disk.pathTo place).text contents

def freshSeed : IO UInt64 := do
  let bytes ← IO.getRandomBytes 8
  return bytes.toList.foldl (fun seed b => seed * 256 + b.toUInt64) 0

end RackTraffic

open RackTraffic in
def main (arguments : List String) : IO UInt32 := do
  let disk ← loadDisk arguments
  let seed ← freshSeed
  let stdout ← IO.getStdout
  let mut shown := 0
  let mut typed := ""
  if CommandLine.awaitsAnswer Shell.host seed arguments disk then
    let (outcome, _) := CommandLine.execute Shell.host seed arguments "" disk
    stdout.putStr outcome.output
    stdout.flush
    shown := outcome.output.length
    typed ← (← IO.getStdin).getLine
  let (outcome, after) := CommandLine.execute Shell.host seed arguments typed disk
  stdout.putStr (String.ofList (outcome.output.toList.drop shown))
  stdout.flush
  (disk.changes after).forM DiskChange.apply
  IO.eprint outcome.error
  return outcome.code.toUInt32
