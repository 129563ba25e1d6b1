import RackTraffic.Json.Decoding
import RackTraffic.Scenario.Shape

/-!
# Shapes as JSON

A shape is written as an object with all its fields in a fixed order. It is read from any JSON
record that has every field; members that are no fields are ignored.
-/

namespace RackTraffic

open JsonValue (fieldValues)

namespace ScenarioShape

def fieldNames : List String :=
  ["num_tors", "flows_per_step", "time_steps", "transfer_size", "data_rate"]

def toJson (shape : ScenarioShape) : JsonValue :=
  .ofMembers (fieldNames.zip [
    .ofUInt64 shape.rackCount,
    .ofUInt64 shape.flowsPerStep,
    .ofUInt64 shape.timeSteps,
    .ofUInt64 shape.transferSize.count,
    .ofUInt64 shape.dataRate.rate ])

def ofJson? (v : JsonValue) : Option ScenarioShape := do
  let [some rackCount, some flowsPerStep, some timeSteps, some transferSize, some dataRate] ←
    fieldValues fieldNames v | none
  return {
    rackCount := ← rackCount.word?
    flowsPerStep := ← flowsPerStep.word?
    timeSteps := ← timeSteps.word?
    transferSize := ⟨← transferSize.word?⟩
    dataRate := ⟨← dataRate.word?⟩ }

end ScenarioShape

namespace BatchShape

def fieldNames : List String :=
  ["scenario", "nr_scenarios", "variants_per_scenario", "nr_wireless"]

def toJson (shape : BatchShape) : JsonValue :=
  .ofMembers (fieldNames.zip [
    shape.scenario.toJson,
    .ofUInt64 shape.scenarioCount,
    .ofUInt64 shape.variantsPerScenario,
    .ofUInt64 shape.wirelessCount ])

def ofJson? (v : JsonValue) : Option BatchShape := do
  let [some scenario, some scenarioCount, some variantsPerScenario, some wirelessCount] ←
    fieldValues fieldNames v | none
  return {
    scenario := ← ScenarioShape.ofJson? scenario
    scenarioCount := ← scenarioCount.word?
    variantsPerScenario := ← variantsPerScenario.word?
    wirelessCount := ← wirelessCount.word? }

/-- Read a batch from a JSON text. -/
def ofText? (text : String) : Option BatchShape := (Json.read? text).bind ofJson?

def toText (shape : BatchShape) : String := shape.toJson.compactText

end BatchShape

end RackTraffic
