import RackTraffic.CommandLine.Options
import RackTraffic.Diagram.Layout
import RackTraffic.Scenario.Shape
import RackTraffic.Simulation.Settings

/-!
# Invocations

The commands of the program and what each of them needs to know. Arguments that are not those of a
command are refused as a whole, before anything is done.
-/

namespace RackTraffic.CommandLine

/-- A command with its arguments. -/
inductive Invocation where
  | generate (directory : Path) (shape : BatchShape) (seed : Option UInt64) (consent : Bool)
  | run (logs results : Path) (settingsFile : Option Path) (flags : RunSettings) (consent : Bool)
  /-- Turn the allocation logs of a directory into tensors, and write them if there is a place. -/
  | parse (logs : Path) (rackCount : UInt64) (directory : Option Path) (consent : Bool)
  | best (results : Path) (scenario : Option ScenarioId) (json : Bool)
  | render (log : Path) (rackCount : UInt64) (output : Path) (layout : Layout)

namespace Invocation

/-! ## Values -/

/-- A path, which may not be empty. -/
def path? (text : String) : Option Path := if text = "" then none else some ⟨text⟩

def count? (text : String) : Option UInt64 := (Integer.readUInt64 text.toList).toOption

def float? (text : String) : Option Float := Decimal.readFloat? text.toList

def scenario? (text : String) : Option ScenarioId := (count? text).map ScenarioId.mk

/-- The flag that consents to writing into what exists. -/
def consentForm : OptionForm := { long := "yes", short := some 'y', takesValue := false }

/-! ## Commands -/

open Given

def generateForms : List OptionForm :=
  [ { long := "output-dir", short := some 'o' },
    { long := "num-tors", short := some 't' },
    { long := "flows-per-step" },
    { long := "time-steps" },
    { long := "scenarios" },
    { long := "variants" },
    { long := "wireless" },
    { long := "seed", short := some 's' },
    consentForm ]

def generate? (given : Given) : Option Invocation := do
  let directory ← required given path? "output-dir"
  let rackCount ← required given count? "num-tors"
  let scenario : ScenarioShape := { rackCount }
  let scenario : ScenarioShape := { scenario with
    flowsPerStep := ← orDefault given count? "flows-per-step" scenario.flowsPerStep
    timeSteps := ← orDefault given count? "time-steps" scenario.timeSteps }
  let shape : BatchShape := { scenario }
  let shape : BatchShape := { shape with
    scenarioCount := ← orDefault given count? "scenarios" shape.scenarioCount
    variantsPerScenario := ← orDefault given count? "variants" shape.variantsPerScenario
    wirelessCount := ← orDefault given count? "wireless" shape.wirelessCount }
  return .generate directory shape (← optional given count? "seed") (flag given "yes")

def runForms : List OptionForm :=
  [ { long := "flow-dir", short := some 'f' },
    { long := "results-dir", short := some 'r' },
    { long := "config", short := some 'c' },
    { long := "ns3-dir" },
    { long := "topology" },
    { long := "program" },
    { long := "gain" },
    { long := "timeout-secs" },
    { long := "jobs", short := some 'j' },
    { long := "direct", takesValue := false },
    consentForm ]

def run? (given : Given) : Option Invocation := do
  let logs ← required given path? "flow-dir"
  let results ← required given path? "results-dir"
  let settingsFile ← optional given path? "config"
  let flags : RunSettings := {
    home := ← optional given path? "ns3-dir"
    topology := ← optional given path? "topology"
    program := ← optional given some "program"
    gain := ← optional given float? "gain"
    timeLimit := ← optional given count? "timeout-secs"
    workers := ← optional given count? "jobs"
    launcher := if flag given "direct" then some .direct else none }
  return .run logs results settingsFile flags (flag given "yes")

def parseForms : List OptionForm :=
  [ { long := "flow-dir", short := some 'f' },
    { long := "num-tors", short := some 't' },
    { long := "output-dir", short := some 'o' },
    consentForm ]

def parse? (given : Given) : Option Invocation := do
  return .parse (← required given path? "flow-dir") (← required given count? "num-tors")
    (← optional given path? "output-dir") (flag given "yes")

def bestForms : List OptionForm :=
  [ { long := "results-dir", short := some 'r' },
    { long := "scenario", short := some 's' },
    { long := "json", takesValue := false } ]

def best? (given : Given) : Option Invocation := do
  return .best (← required given path? "results-dir") (← optional given scenario? "scenario")
    (flag given "json")

def renderForms : List OptionForm :=
  [ { long := "alloc", short := some 'a' },
    { long := "num-tors", short := some 't' },
    { long := "output", short := some 'o' },
    { long := "racks-per-row" } ]

def render? (given : Given) : Option Invocation := do
  let layout : Layout := {}
  let racksPerRow ← orDefault given count? "racks-per-row" layout.racksPerRow
  return .render (← required given path? "alloc") (← required given count? "num-tors")
    (← required given path? "output") { layout with racksPerRow }

/-- The options of a command and what is made of them. -/
def command? : String → Option (List OptionForm × (Given → Option Invocation))
  | "generate" => some (generateForms, generate?)
  | "run" => some (runForms, run?)
  | "parse" => some (parseForms, parse?)
  | "best" => some (bestForms, best?)
  | "render" => some (renderForms, render?)
  | _ => none

/-- The invocation that arguments stand for: the name of a command and its options. -/
def ofArguments? : List String → Option Invocation
  | [] => none
  | name :: arguments => do
    let (forms, make) ← command? name
    make (← readArguments forms .option [] arguments)

def paths : Invocation → List Path
  | .generate directory _ _ _ => [directory]
  | .run logs results settingsFile flags _ =>
    [logs, results] ++ settingsFile.toList ++ flags.home.toList
  | .parse logs _ directory _ => logs :: directory.toList
  | .best results _ _ => [results]
  | .render log _ output _ => [log, output]

end Invocation

end RackTraffic.CommandLine
