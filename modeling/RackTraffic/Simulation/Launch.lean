import RackTraffic.Simulation.Job
import RackTraffic.Text.Blank

/-!
# Launching a simulator program

The simulator is a program of its own, which lives in a source tree. It is told what to do by five
arguments. It is started in one of two ways:

* *directly*: the words of the program's text, followed by the arguments, are the command;
* through the tree's *build script*, which takes the program and its arguments as one text and
  splits it at blanks. An argument that holds a blank would be torn apart, so it is refused, before
  anything is done.

The program runs in the directory of the source tree, so every path that it is given is resolved to
one from the root before that. What it prints goes to the console file of the job.

How programs are run at all is left to a *host*.
-/

namespace RackTraffic

inductive Launcher where
  | buildScript
  | direct
  deriving DecidableEq, Repr

/-- A program to be started with arguments in a directory. -/
structure Command where
  program : String
  arguments : List String
  directory : Path
  deriving DecidableEq, Repr

inductive Ending where
  | exited (code : UInt8)
  | killed
  /-- It was stopped because it took longer than this. -/
  | outOfTime (limit : Duration)
  deriving DecidableEq, Repr

/-- A machine that runs commands: `host command console limit` runs a command to its end, or to the
time limit if there is one, and adds what it prints to the file `console`. It fails if the command
cannot be started. -/
abbrev Host := Command → Path → Option Duration → DiskAction IoError Ending

/-- The simulator program and what is the same for all jobs. -/
structure SimulatorProgram where
  home : Path
  /-- The topology file, as the program sees it. -/
  topology : Path
  program : String
  gain : Float
  timeLimit : Option Duration
  launcher : Launcher

/-- The path from the root to a place that need not exist, in a directory that must. -/
def Disk.absolute (d : Disk) (path : Path) : Except IoError Path :=
  match path.fileName? with
  | none => .error .noFileName
  | some name => (d.canonical path.directory).map (·.join name)

def Job.absolute (job : Job) (d : Disk) : Except IoError Job := do
  let flowLog ← d.canonical job.flowLog
  let allocationLog ← d.canonical job.allocationLog
  let output ← d.absolute job.output
  let console ← d.absolute job.console
  return { id := job.id, flowLog, allocationLog, output, console }

namespace SimulatorProgram

def arguments (p : SimulatorProgram) (job : Job) : List String :=
  [ "--topo=" ++ p.topology.text,
    "--flow=" ++ job.flowLog.text,
    "--alloc=" ++ job.allocationLog.text,
    "--outfile=" ++ job.output.text,
    "--gain=" ++ Decimal.plain p.gain ]

def scriptName : String := "waf"

def wordsOf (text : String) : List String := (Text.words text.toList).map String.ofList

def hasBlank (text : String) : Bool := text.toList.any Text.isBlank

/-- The command that starts the program in the source tree `home`. -/
def command (p : SimulatorProgram) (home : Path) (arguments : List String) :
    Except SimulationFault Command :=
  match p.launcher with
  | .buildScript =>
    match arguments.find? hasBlank with
    | some argument => .error (.unfitArgument argument)
    | none => .ok {
        program := (home.join scriptName).text
        arguments := ["--run", p.program ++ " " ++ " ".intercalate arguments]
        directory := home }
  | .direct =>
    let words := wordsOf p.program
    .ok {
      program := words.head?.getD ""
      arguments := words.tail ++ arguments
      directory := home }

/-- What the end of the program means for a job. -/
def judge (job : Job) (d : Disk) : Ending → Except SimulationFault Unit
  | .outOfTime limit => .error (.outOfTime limit)
  | .killed => .error (.failed none)
  | .exited code =>
    if code ≠ 0 then .error (.failed (some code.toNat))
    else if d.isFile job.output then .ok ()
    else .error (.noOutput job.output)

/-- Carry out a job by running the program. The console file is made before the program starts. -/
def simulate (p : SimulatorProgram) (host : Host) : Simulator := fun job => do
  let home ← DiskAction.look fun d => (d.canonical p.home).mapError .io
  let job ← DiskAction.look fun d => (job.absolute d).mapError .io
  let command ← DiskAction.look fun _ => p.command home (p.arguments job)
  DiskAction.change fun d => (d.write job.console .empty).mapError .io
  let ending ← (host command job.console p.timeLimit).mapFailure .notStarted
  DiskAction.look fun d => judge job d ending

end SimulatorProgram

end RackTraffic
