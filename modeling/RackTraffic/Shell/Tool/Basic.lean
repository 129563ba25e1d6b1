import RackTraffic.Shell.Session
import RackTraffic.Shell.Tool.Filter
import RackTraffic.Shell.Tool.Options

/-!
# Tools

A tool is a program that every machine has. It is called by a name with words, reads and writes
streams, changes the disk and ends with a status, which is zero if it has succeeded. What goes wrong
it says under the name that it was called by.

Only the machine for scripts (`Shell.host`) needs this module, and only `Main` and test runs need
the machine; no result is about it.
-/

namespace RackTraffic.Shell

open Effect

/-- What a tool does when it is called by a name with words. -/
abbrev Tool := (name : String) → List String → Effect Unit

def reasonOf (error : IoError) : String := ((error.message.splitOn " (").head?).getD ""

def say (name message : String) : Effect Unit := writeLine 2 (name ++ ": " ++ message)

def refuse (name : String) (fault : UsageFault) (status : UInt8) : Effect Unit := do
  say name fault.message
  writeLine 2 ("Try '" ++ name ++ " --help' for more information.")
  done status

/-- Read the options of a tool and go on with them. A status says how it ends if they are wrong. -/
def withOptions (letters : Options.Letters) (status : UInt8)
    (act : String → Options → Effect Unit) :
    Tool := fun name words =>
  match Options.read letters true words with
  | .ok o => act name o
  | .error fault => refuse name fault status

def print (s : List Char) : Effect Unit := write 1 (bytesOf s)

def printLine (line : String) : Effect Unit := writeLine 1 line

/-! ## Input -/

/-- A file of a directory of devices, if a path is one. -/
def device? (path : String) : Option String :=
  if path.startsWith "/dev/" then some (path.drop 5).toString else none

/-- The bytes of what a word of a tool names. A dash is the input. -/
def readOperand (word : String) : Effect (Except IoError ByteArray) := do
  if word = "-" || device? word = some "stdin" then return .ok (← readRest 0)
  if device? word = some "null" then return .ok .empty
  return (← get).disk.read ⟨word⟩

/-- How the name of a file is shown in a message. An empty one would not be seen. -/
def shownFile (word : String) : String := if word = "" then "''" else word

/-- Do something with each of several files, or with the input if there are none. What cannot be
read is reported and makes the status `status`. -/
def forInputs (name : String) (files : List String) (status : UInt8)
    (complaint : String → IoError → String) (act : String → ByteArray → Effect Unit) :
    Effect Unit := do
  done 0
  for file in if files.isEmpty then ["-"] else files do
    match ← readOperand file with
    | .ok bytes => act file bytes
    | .error error =>
      say name (complaint file error)
      done status

def plainComplaint (file : String) (error : IoError) : String :=
  shownFile file ++ ": " ++ reasonOf error

def gather (name : String) (files : List String) (status : UInt8)
    (complaint : String → IoError → String) : Effect (List Char) := do
  let mut all : ByteArray := .empty
  done 0
  for file in if files.isEmpty then ["-"] else files do
    match ← readOperand file with
    | .ok bytes => all := all ++ bytes
    | .error error =>
      say name (complaint file error)
      done status
  return charsOf all

/-! ## Output files -/

/-- Write a file, or to a device. -/
def writeFile (word : String) (keep : Bool) (bytes : ByteArray) : Effect (Except IoError Unit) := do
  match device? word with
  | some "null" => return .ok ()
  | some "stdout" => return .ok (← write 1 bytes)
  | some "stderr" => return .ok (← write 2 bytes)
  | _ =>
    let d := (← get).disk
    let before := if keep then (d.read ⟨word⟩).toOption.getD .empty else .empty
    change (DiskAction.change (·.write ⟨word⟩ (before ++ bytes)))

end RackTraffic.Shell
