import RackTraffic.Draw.Sample
import RackTraffic.Scenario.Shape
import RackTraffic.Traffic.Log

/-!
# Drawing scenarios and variants

At every time step a scenario draws different ordered pairs of racks. The pairs are numbered in
lexicographic order, so a sample of numbers is a sample of pairs. A variant draws which of a
scenario's flows are wireless; the others are wired.

A request that asks for too much is refused before any word is drawn. The one thing that can go
wrong later is a flow that may not be drawn, because the shape says that flows transfer nothing.
-/

namespace RackTraffic

inductive DrawFault where
  | refused (fault : SampleFault)
  | badFlow (fault : FlowFault)
  deriving DecidableEq, Repr

/-- A computation that draws words and may fail. A failure keeps the state of the source. -/
abbrev Drawing (σ α : Type) := ExceptT DrawFault (Draw σ) α

variable {σ : Type} [WordSource σ]

/-- The ordered pair of different racks with a given number, among `rackCount` racks. There are
`rackCount - 1` pairs with the same source; the destination skips the source. -/
def nthPair (rackCount number : UInt64) : Rack × Rack :=
  let others := rackCount - 1
  let source := number / others
  let rest := number % others
  (⟨source⟩, ⟨if source ≤ rest then rest + 1 else rest⟩)

def ScenarioShape.flow (shape : ScenarioShape) (timeStep : UInt64) (number : Nat) :
    Except FlowFault Flow :=
  let (source, destination) := nthPair shape.rackCount (UInt64.ofNat number)
  Flow.tcp timeStep source destination shape.transferSize shape.dataRate

def ScenarioShape.flows (shape : ScenarioShape) (timeStep : UInt64) (numbers : List Nat) :
    Except DrawFault (List Flow) :=
  (numbers.mapM (shape.flow timeStep)).mapError .badFlow

/-- Draw the flows of `steps` time steps, the first of which is `timeStep`. -/
def ScenarioShape.drawSteps (shape : ScenarioShape) : (steps timeStep : Nat) → Drawing σ (List Flow)
  | 0, _ => pure []
  | steps + 1, timeStep => do
    let numbers ← (Draw.sample shape.pairCount shape.flowsPerStep.toNat : Draw σ (List Nat))
    let flows ← shape.flows (UInt64.ofNat timeStep) numbers
    return flows ++ (← drawSteps shape steps (timeStep + 1))

/-- Draw a scenario. -/
def ScenarioShape.draw (shape : ScenarioShape) (scenario : ScenarioId) : Drawing σ FlowLog := do
  (shape.check.mapError .refused : Except DrawFault Unit)
  let flows ← shape.drawSteps shape.timeSteps.toNat 0
  return { scenario, flows }

/-- Give the flows whose places were chosen a wireless link and the others a wired one. -/
def allocate (flows : List Flow) (chosen : List Nat) : List AllocatedFlow :=
  let places := Std.HashSet.ofList chosen
  flows.zipIdx.map fun (flow, i) => ⟨flow, if places.contains i then .wireless else .wired⟩

def FlowLog.checkVariant (log : FlowLog) (wirelessCount : UInt64) : Except DrawFault Unit :=
  (checkSample .flows wirelessCount.toNat log.flows.length).mapError .refused

/-- Draw a variant of a scenario with a given number of wireless flows. -/
def FlowLog.drawVariant (log : FlowLog) (variant : VariantId) (wirelessCount : UInt64) :
    Drawing σ AllocationLog := do
  (log.checkVariant wirelessCount : Except DrawFault Unit)
  let chosen ← (Draw.sample log.flows.length wirelessCount.toNat : Draw σ (List Nat))
  return { scenario := log.scenario, variant, flows := allocate log.flows chosen }

end RackTraffic
