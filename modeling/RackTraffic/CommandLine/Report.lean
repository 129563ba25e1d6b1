import RackTraffic.Diagram.Drawing
import RackTraffic.Scenario.Batch
import RackTraffic.Simulation.Settings
import RackTraffic.WorkFault

/-!
# Reports of failed commands

A command that fails says why: the message of its fault, and below it the reasons behind that, the
outermost first. A single reason is indented, several are numbered. If a reason has several lines,
all of them are indented as its first one is.
-/

namespace RackTraffic.CommandLine

/-- Why a command has failed. -/
inductive CommandFault where
  | batch (fault : BatchFault)
  | settings (fault : SettingsFault)
  | work (fault : WorkFault)
  | output (fault : OutputFault)
  | log (fault : LogFault)
  | diagram (fault : DiagramFault)
  | io (error : IoError)
  | refused (directory : Path)
  | noResults (scenario : ScenarioId) (directory : Path)
  /-- The work is too large to be done at all. Nothing is said about it. -/
  | beyondLimits
  deriving DecidableEq, Repr

def batchMessage : BatchFault → String
  | .refused fault => fault.message
  | .badFlow _ => "a flow must transfer something between different racks"
  | .output fault => fault.message
  | .io error => error.message

def diagramReasons (fault : DiagramFault) : List String :=
  fault.message ::
    match fault with
    | .malformed inner => inner.reasons
    | .io error => [error.message]
    | _ => []

def settingsReasons (fault : SettingsFault) : List String :=
  fault.message ::
    match fault with
    | .malformed inner => [inner.message]
    | .io error => [error.message]
    | _ => []

/-- The messages of a fault, the outermost first. -/
def CommandFault.reasons : CommandFault → List String
  | .batch fault => [batchMessage fault]
  | .settings fault => settingsReasons fault
  | .work fault => fault.reasons
  | .output fault => [fault.message]
  | .log fault => fault.reasons
  | .diagram fault => diagramReasons fault
  | .io error => [error.message]
  | .refused directory => ["not overwriting " ++ directory.text]
  | .noResults scenario directory =>
    [s!"no results for scenario {scenario.number} in " ++ directory.text]
  | .beyondLimits => []

/-- A text with a start before its first line and an indentation before the others. -/
def indented (start indent text : String) : String :=
  start ++ ("\n" ++ indent).intercalate (text.splitOn "\n")

def numbered (number : Nat) (text : String) : String :=
  let digits := toString number
  let padding := String.ofList (List.replicate (5 - digits.length) ' ')
  indented (padding ++ digits ++ ": ") "       " text

def causeLines : List String → List String
  | [] => []
  | [reason] => ["", "Caused by:", indented "    " "    " reason]
  | reasons => ["", "Caused by:"] ++ reasons.mapIdx numbered

/-- The report of messages, the outermost first. -/
def report (messages : List String) : String :=
  match messages with
  | [] => ""
  | message :: reasons =>
    String.join ((("Error: " ++ message) :: causeLines reasons).map (· ++ "\n"))

end RackTraffic.CommandLine
