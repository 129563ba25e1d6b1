import RackTraffic.Traffic.Flow

/-!
# The shape of scenarios and batches

A scenario is drawn to a shape: how many racks there are, how many time steps, how many flows start
at each step, and what every flow transfers. A batch adds how many scenarios are drawn, how many
variants of each, and how many flows of a variant are wireless.

Some shapes ask for more than there is. They are refused before anything is drawn: first more flows
per step than ordered pairs of racks, then more flows in all than can be counted, then more wireless
flows than flows.
-/

namespace RackTraffic

/-- The shape of a scenario. -/
structure ScenarioShape where
  rackCount : UInt64
  flowsPerStep : UInt64 := 15
  timeSteps : UInt64 := 1
  /-- What each flow transfers. -/
  transferSize : Bytes := ⟨100000000⟩
  dataRate : Gbps := ⟨1⟩
  deriving DecidableEq, Repr

structure BatchShape where
  scenario : ScenarioShape
  scenarioCount : UInt64 := 1
  variantsPerScenario : UInt64 := 4
  wirelessCount : UInt64 := 4
  deriving DecidableEq, Repr

/-- The largest number that counts are kept in. -/
def maxCount : Nat := UInt64.size - 1

inductive Population where
  | pairs
  | flows
  deriving DecidableEq, Repr

def Population.name : Population → String
  | .pairs => "node pairs"
  | .flows => "flow records"

inductive SampleFault where
  | tooMany (population : Population) (requested available : Nat)
  | uncountable
  deriving DecidableEq, Repr

def SampleFault.message : SampleFault → String
  | .tooMany population requested available =>
    s!"cannot draw {requested} distinct {population.name} out of {available}"
  | .uncountable => "number of " ++ Population.flows.name ++ " overflows usize"

/-- Refuse a sample larger than its population. -/
def checkSample (population : Population) (requested available : Nat) : Except SampleFault Unit :=
  if available < requested then .error (.tooMany population requested available) else .ok ()

namespace ScenarioShape

/-- The number of ordered pairs of different racks, or the largest count if there are more. -/
def pairCount (shape : ScenarioShape) : Nat :=
  min (shape.rackCount.toNat * (shape.rackCount.toNat - 1)) maxCount

/-- The number of flows in a scenario, if it can be counted. -/
def flowCount? (shape : ScenarioShape) : Option Nat :=
  let count := shape.timeSteps.toNat * shape.flowsPerStep.toNat
  if count ≤ maxCount then some count else none

def flowCount (shape : ScenarioShape) : Except SampleFault Nat :=
  match shape.flowCount? with
  | some count => .ok count
  | none => .error .uncountable

/-- Refuse a shape that asks for too much. -/
def check (shape : ScenarioShape) : Except SampleFault Unit := do
  checkSample .pairs shape.flowsPerStep.toNat shape.pairCount
  let _ ← shape.flowCount

end ScenarioShape

def BatchShape.check (shape : BatchShape) : Except SampleFault Unit := do
  shape.scenario.check
  if shape.variantsPerScenario = 0 then return
  checkSample .flows shape.wirelessCount.toNat (← shape.scenario.flowCount)

end RackTraffic
