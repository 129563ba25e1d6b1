import RackTraffic.Shell.Condition
import RackTraffic.Shell.Tool.Difference
import RackTraffic.Shell.Tool.Files
import RackTraffic.Shell.Tool.Text
import RackTraffic.Shell.Tool.Value

/-!
# Programs

A program is found by its name in one of the directories for programs, or by a path. Some programs
every machine has; every other one is a file, which is either a script that names its interpreter or
a script that does not.

Only the machine for scripts (`Shell.host`) needs this module, and only `Main` and test runs need
the machine; no result is about it.
-/

namespace RackTraffic.Shell

open Effect

/-! ## Programs that every machine has -/

def sleep : Tool := fun name words => do
  let units : List (Char × Float) := [('s', 1.0), ('m', 60.0), ('h', 3600.0), ('d', 86400.0)]
  let seconds? (word : String) : Option Float :=
    let s := word.toList
    match s.getLast?.bind fun c => units.lookup c with
    | some unit => (Decimal.readDecimal? s.dropLast).map (· * unit)
    | none => Decimal.readDecimal? s
  let wrong := words.filter fun word => (seconds? word).isNone
  match words, wrong with
  | [], _ => refuse name .missingOperand 1
  | _, word :: _ =>
    match word.toList with
    | '-' :: '-' :: _ :: _ => refuse name (.unknownOption word) 1
    | '-' :: c :: _ => refuse name (.invalidOption c) 1
    | _ =>
      for word in wrong do say name ("invalid time interval '" ++ word ++ "'")
      writeLine 2 ("Try '" ++ name ++ " --help' for more information.")
      done 1
  | _, [] =>
    let total := (words.filterMap seconds?).foldl (· + ·) 0.0
    waitUntil ((← get).clock + (total * 1000.0).toUInt64.toNat)
    done 0

def testTool (bracket : Bool) : Tool := fun name words => do
  if bracket && words.getLast? ≠ some "]" then
    say name "missing ']'"
    done 2
  else
    match holds (← get).disk (if bracket then words.dropLast else words) with
    | .ok b => done (if b then 0 else 1)
    | .error reason =>
      say name (match words with
        | [a, _] => "'" ++ a ++ "': unary operator expected"
        | [_, b, _] => "'" ++ b ++ "': binary operator expected"
        | _ :: extra :: _ =>
          if reason.endsWith "unexpected operator" then "extra argument '" ++ extra ++ "'"
          else reason
        | _ => reason)
      done 2

def pwdTool : Tool :=
  withOptions { plain := "LP" } 1 fun _ _ => do
    printLine (Disk.pathTo (← get).disk.current).text
    done 0

def killTool : Tool := fun name words => do
  let targets := words.filter fun word => !word.startsWith "-"
  if targets.isEmpty then refuse name (.other "no process ID specified") 1
  else done 0

def tool? : (name : String) → Option Tool
  | "echo" => some echoTool
  | "printf" => some printfTool
  | "true" => some fun _ _ => done 0
  | "false" => some fun _ _ => done 1
  | "test" => some (testTool false)
  | "[" => some (testTool true)
  | "pwd" => some pwdTool
  | "sleep" => some sleep
  | "kill" => some killTool
  | "cat" => some cat
  | "head" => some (printPart false)
  | "tail" => some (printPart true)
  | "wc" => some wc
  | "sort" => some sort
  | "uniq" => some uniq
  | "cut" => some cut
  | "tr" => some tr
  | "tac" => some tac
  | "rev" => some rev
  | "nl" => some nl
  | "paste" => some paste
  | "tee" => some tee
  | "grep" => some (grep false false)
  | "egrep" => some (grep true false)
  | "fgrep" => some (grep false true)
  | "sed" => some sed
  | "cmp" => some cmp
  | "diff" => some diff
  | "mkdir" => some mkdir
  | "rmdir" => some rmdir
  | "rm" => some rm
  | "unlink" => some rm
  | "touch" => some touch
  | "truncate" => some truncate
  | "chmod" => some chmod
  | "cp" => some cp
  | "mv" => some mv
  | "ls" => some ls
  | "realpath" | "readlink" => some realpath
  | "basename" => some basename
  | "dirname" => some dirname
  | "seq" => some seq
  | "expr" => some expr
  | "sync" => some (withOptions { plain := "df" } 1 fun _ _ => done 0)
  | "yes" => some yes
  | _ => none

def shellNames : List String := ["sh", "dash", "bash"]

def recordNames : List String := ["awk", "mawk"]

def starterNames : List String :=
  shellNames ++ recordNames ++ ["env", "xargs", "timeout", "nohup", "nice", "which", "find"]

def isKnownName (name : String) : Bool := starterNames.contains name || (tool? name).isSome

/-! ## Finding programs -/

/-- What a program is. -/
inductive Program where
  | known (name : String)
  | script (interpreter : List String)
  /-- A script that does not say what runs it. -/
  | bare
  deriving DecidableEq, Repr

/-- The words on the first line of a program file after `#!`: the program that interprets it, and
what else there is on the line. -/
def interpreter? (contents : ByteArray) : Option (List String) :=
  match (charsOf contents).take 256 with
  | '#' :: '!' :: rest =>
    let isBlank (c : Char) : Bool := c == ' ' || c == '\t'
    let line := (rest.takeWhile (· != '\n')).dropWhile isBlank
    let line := (line.reverse.dropWhile isBlank).reverse
    let (program, rest) := line.span (!isBlank ·)
    let option := rest.dropWhile isBlank
    let word (s : List Char) : String := (String.fromUTF8? (bytesOf s)).getD ""
    let path := if program.contains '/' then program else '.' :: '/' :: program
    if program.isEmpty then none
    else some (word path :: if option.isEmpty then [] else [word option])
  | _ => none

def programDirectories : List String :=
  ["/usr/local/sbin", "/usr/local/bin", "/usr/sbin", "/usr/bin", "/sbin", "/bin"]

def Program.atPath (d : Disk) (path : String) : Except IoError Program := do
  let name := ((⟨path⟩ : Path).fileName?).getD ""
  if ["/usr/bin/" ++ name, "/bin/" ++ name].contains path && isKnownName name then
    return .known name
  match ← d.find ⟨path⟩ with
  | (_, .directory) | (_, .file _ false) => throw .permissionDenied
  | (_, .file contents true) => return (interpreter? contents).elim .bare .script

/-- A program with a name, or at a path, and the path that it is found at. -/
def Program.find (d : Disk) (directories : List String) (word : String) :
    Except IoError (Program × String) := do
  if word.toList.contains '/' then return (← Program.atPath d word, word)
  let paths := directories.map fun directory =>
    ((⟨if directory = "" then "." else directory⟩ : Path).join word).text
  let found := paths.filterMap fun path =>
    match Program.atPath d path with
    | .ok program => some (.ok (program, path))
    | .error .permissionDenied =>
      if d.isFile ⟨path⟩ then some (.error .permissionDenied) else none
    | .error _ => none
  let isOk : Except IoError (Program × String) → Bool
    | .ok _ => true
    | .error _ => false
  match found.find? isOk, found with
  | some (.ok program), _ => return program
  | _, .error error :: _ => throw error
  | _, _ => throw .notFound

end RackTraffic.Shell
