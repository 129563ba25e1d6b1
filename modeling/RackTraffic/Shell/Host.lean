import RackTraffic.Shell.Run
import RackTraffic.Simulation.Launch

/-!
# A machine for scripts

A machine on which every program is a script or one of the tools. It is enough to stand in for a
simulator whose runs are scripted.

The program (`Main`) and test runs need a machine to run on, and this is all that it and the modules
below it are for. What is proved about runs holds for any simulator and any host, so no result
reaches this far.
-/

namespace RackTraffic.Shell

/-- How deeply the instructions of a script may nest. -/
def maxDepth : Nat := 1000000

def firstProcess : Nat := 4711

/-- Check that a command can be started: its program is there, and what interprets it is, too.
`depth` bounds how many interpreters are scripts themselves. -/
def checkStart (d : Disk) : (depth : Nat) → (word : String) → Except IoError Unit
  | 0, _ => .error .notExecutable
  | depth + 1, word => do
    match ← Program.find d programDirectories word with
    | (.known _, _) => return
    | (.bare, _) => throw .notExecutable
    | (.script interpreter, _) => checkStart d depth (interpreter.head?.getD "")

def machineVariables : List (String × Variable) :=
  [ ("PATH", { value := some (":".intercalate programDirectories), exported := true }),
    ("HOME", { value := some "/root", exported := true }) ]

def runFirst (words : List String) : Effect Unit := do
  Effect.waitUntil 0
  runProgram maxDepth (some firstProcess) words

/-- A machine on which every program is a script or a tool. -/
def host : Host := fun command console limit d =>
  match d.find command.directory, d.find console with
  | .error error, _ | _, .error error => (.error error, d)
  | .ok (_, .file ..), _ => (.error .notADirectory, d)
  | .ok (place, .directory), .ok (consolePlace, _) =>
    let inside := { d with current := place }
    match checkStart inside 5 command.program with
    | .error error => (.error error, d)
    | .ok () =>
      let context : Context := {
        name := command.program
        arguments := command.arguments
        process := firstProcess, self := firstProcess
        bindings := machineVariables
        streams := [(0, 0), (1, 1), (2, 1)] }
      let machine : Machine := {
        disk := inside
        channels := #[{ medium := .nowhere }, { medium := .file consolePlace }]
        limit := limit.map fun l => l.nanoseconds / Nat.pow 10 6
        processes := firstProcess }
      let (r, s) := runFirst (command.program :: command.arguments)
        { toContext := context, toMachine := machine }
      let ending := match r with
        | .error (.killed ..) => Ending.killed
        | .error .outOfTime | .error .exhausted => .outOfTime (limit.getD ⟨0⟩)
        | _ => .exited s.status
      (.ok ending, { s.disk with current := d.current })

end RackTraffic.Shell
