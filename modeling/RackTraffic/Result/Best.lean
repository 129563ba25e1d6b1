import RackTraffic.Json.Value
import RackTraffic.Traffic.Listing
import RackTraffic.WorkFault

/-!
# The best variant of a scenario

The best variant of a scenario is the one with the highest mean throughput. Of several with the
same mean the one with the lowest number wins, and a mean that is not a number never wins. A
scenario none of whose means is a number has no best variant.

A directory of results is read in the order of its listing, so of several results that cannot be
read the first in that order is reported.
-/

namespace RackTraffic

/-- The first of the largest values, leaving out those that are not numbers. `best` is the largest
of the values before. -/
def firstLargest {κ : Type} : (best : Option (κ × Float)) → List (κ × Float) → Option (κ × Float)
  | best, [] => best
  | best, (key, value) :: rest =>
    if value.isNaN then firstLargest best rest
    else
      match best with
      | none => firstLargest (some (key, value)) rest
      | some (k, top) =>
        if value ≤ top then firstLargest (some (k, top)) rest
        else firstLargest (some (key, value)) rest

/-- The best variant of a scenario. -/
structure ScenarioBest where
  scenario : ScenarioId
  variant : VariantId
  throughput : Float
  variantCount : Nat
  deriving DecidableEq

def ScenarioBest.toJson (best : ScenarioBest) : JsonValue :=
  .ofMembers [
    ("scenario", .ofUInt64 best.scenario.number),
    ("variant", .ofUInt64 best.variant.number),
    ("throughput", .ofFloat best.throughput),
    ("nr_variants", .ofNat best.variantCount) ]

/-- The results that follow one another with the same scenario, in groups. -/
def groupByScenario : List (PairId × Path) → List (ScenarioId × List (PairId × Path))
  | [] => []
  | (id, path) :: rest =>
    match groupByScenario rest with
    | [] => [(id.scenario, [(id, path)])]
    | (scenario, group) :: groups =>
      if id.scenario = scenario then (scenario, (id, path) :: group) :: groups
      else (id.scenario, [(id, path)]) :: (scenario, group) :: groups

namespace Disk

def throughputs (d : Disk) : List (PairId × Path) → Except WorkFault (List (VariantId × Float))
  | [] => .ok []
  | (id, path) :: rest => do
    let throughput ← (d.throughput path).mapError .result
    return (id.variant, throughput.value) :: (← d.throughputs rest)

/-- The best variant of a scenario and its mean throughput. -/
def bestVariant (d : Disk) (scenario : ScenarioId) (directory : Path) :
    Except WorkFault (Option (VariantId × Float)) := do
  let results ← (d.results directory).mapError .io
  let values ← d.throughputs (results.filter fun (id, _) => id.scenario = scenario)
  return firstLargest none values

def bestOfGroups (d : Disk) :
    List (ScenarioId × List (PairId × Path)) → Except WorkFault (List ScenarioBest)
  | [] => .ok []
  | (scenario, group) :: rest => do
    let values ← d.throughputs group
    let bests ← d.bestOfGroups rest
    match firstLargest none values with
    | none => return bests
    | some (variant, throughput) =>
      return { scenario, variant, throughput, variantCount := values.length } :: bests

/-- The best variant of every scenario with results in a directory. -/
def summarize (d : Disk) (directory : Path) : Except WorkFault (List ScenarioBest) := do
  let results ← (d.results directory).mapError .io
  d.bestOfGroups (groupByScenario results)

end Disk

end RackTraffic
