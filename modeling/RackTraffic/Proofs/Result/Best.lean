import Mathlib.Data.List.Dedup
import Mathlib.Data.List.ReduceOption
import RackTraffic.Proofs.Fallible
import RackTraffic.Proofs.Traffic.Listing
import RackTraffic.Result.Best

/-!
# Best variants, scenario by scenario

Results in the order of their pairs fall into one group for each scenario, in the order of the
scenarios, and the group of a scenario is what a filter for it leaves (`groupByScenario_withPaths`).
So the best variants of all scenarios are found by looking at every scenario for itself. This fails
as it does for the first scenario for which it fails (`Disk.bestOfGroups_eq_mapM`).
-/

namespace RackTraffic

variable {ids : List PairId} {id : PairId} {scenario : ScenarioId} {pathOf : PairId → Path}

/-! ## Groups -/

/-- The scenarios of pairs. -/
def scenariosOf (ids : List PairId) : List ScenarioId := (ids.map PairId.scenario).dedup

/-- The pairs of a scenario. -/
def pairsOf (scenario : ScenarioId) (ids : List PairId) : List PairId :=
  ids.filter (·.scenario = scenario)

/-- Pairs with the paths of their results. -/
def withPaths (pathOf : PairId → Path) (ids : List PairId) : List (PairId × Path) :=
  ids.map fun id => (id, pathOf id)

theorem mem_scenariosOf : scenario ∈ scenariosOf ids ↔ ∃ id ∈ ids, id.scenario = scenario := by
  rw [scenariosOf, List.mem_dedup, List.mem_map]

theorem mem_pairsOf : id ∈ pairsOf scenario ids ↔ id ∈ ids ∧ id.scenario = scenario := by
  rw [pairsOf, List.mem_filter, decide_eq_true_eq]

theorem pairsOf_cons_eq (h : id.scenario = scenario) :
    pairsOf scenario (id :: ids) = id :: pairsOf scenario ids :=
  List.filter_cons_of_pos (decide_eq_true h)

theorem pairsOf_cons_ne (h : id.scenario ≠ scenario) :
    pairsOf scenario (id :: ids) = pairsOf scenario ids :=
  List.filter_cons_of_neg (by simpa using h)

theorem pairsOf_eq_nil (h : scenario ∉ scenariosOf ids) : pairsOf scenario ids = [] :=
  List.eq_nil_iff_forall_not_mem.mpr fun id hid => h (mem_scenariosOf.mpr ⟨id, mem_pairsOf.mp hid⟩)

theorem scenariosOf_increasing (hsorted : ids.Pairwise (· < ·)) :
    (scenariosOf ids).Pairwise (· < ·) := by
  have hle : (ids.map PairId.scenario).Pairwise fun a b => a < b ∨ a = b :=
    List.pairwise_map.mpr (hsorted.imp PairId.scenario_lt_or_eq)
  exact ((hle.sublist (List.dedup_sublist _)).and (List.nodup_dedup _)).imp
    fun h => h.1.resolve_right h.2

/-- No pair comes after a later one, so the first scenario is that of the first pair. -/
theorem exists_scenariosOf_eq_cons (hsorted : (id :: ids).Pairwise (· < ·))
    (hmem : id.scenario ∈ scenariosOf ids) : ∃ others, scenariosOf ids = id.scenario :: others := by
  obtain ⟨hlater, hids⟩ := List.pairwise_cons.mp hsorted
  have hincreasing := scenariosOf_increasing hids
  cases hlist : scenariosOf ids with
  | nil => simp [hlist] at hmem
  | cons first others =>
    rw [hlist] at hmem hincreasing
    obtain ⟨later, hmem', rfl⟩ := mem_scenariosOf.mp (hlist ▸ List.mem_cons_self)
    rcases List.mem_cons.mp hmem with heq | hothers
    · exact ⟨others, by rw [heq]⟩
    · have hlt := (List.pairwise_cons.mp hincreasing).1 _ hothers
      rcases PairId.scenario_lt_or_eq (hlater later hmem') with h | h
      · exact absurd h (ScenarioId.lt_asymm hlt)
      · exact ⟨others, by rw [h]⟩

/-- **Groups are filters.** Results in order fall into one group for each scenario. -/
theorem groupByScenario_withPaths (hsorted : ids.Pairwise (· < ·)) :
    groupByScenario (withPaths pathOf ids) = (scenariosOf ids).map fun scenario =>
      (scenario, withPaths pathOf (pairsOf scenario ids)) := by
  induction ids with
  | nil => rfl
  | cons id rest ih =>
    have hrest : rest.Pairwise (· < ·) := hsorted.tail
    have hincreasing := scenariosOf_increasing hrest
    have hothers : ∀ scenarios : List ScenarioId, id.scenario ∉ scenarios →
        (scenarios.map fun scenario => (scenario, withPaths pathOf (pairsOf scenario rest))) =
          scenarios.map fun scenario =>
            (scenario, withPaths pathOf (pairsOf scenario (id :: rest))) := by
      intro scenarios hnot
      refine List.map_congr_left fun scenario hscenario => ?_
      rw [pairsOf_cons_ne fun h => hnot (h ▸ hscenario)]
    have hcons : withPaths pathOf (id :: rest) = (id, pathOf id) :: withPaths pathOf rest := rfl
    rw [hcons, groupByScenario, ih hrest]
    by_cases hmem : id.scenario ∈ scenariosOf rest
    · -- The pair joins the first group.
      have hscenarios : scenariosOf (id :: rest) = scenariosOf rest :=
        List.dedup_cons_of_mem (List.mem_dedup.mp hmem)
      obtain ⟨others, hlist⟩ := exists_scenariosOf_eq_cons hsorted hmem
      rw [hlist] at hincreasing
      have hnot : id.scenario ∉ others := fun h =>
        id.scenario.lt_irrefl ((List.pairwise_cons.mp hincreasing).1 _ h)
      rw [hscenarios, hlist, List.map_cons, List.map_cons, ← hothers others hnot,
        pairsOf_cons_eq rfl]
      simp only [if_true]
      rfl
    · -- The pair makes a group of its own.
      have hscenarios : scenariosOf (id :: rest) = id.scenario :: scenariosOf rest :=
        List.dedup_cons_of_notMem fun h => hmem (List.mem_dedup.mpr h)
      rw [hscenarios, List.map_cons, ← hothers _ hmem, pairsOf_cons_eq rfl, pairsOf_eq_nil hmem]
      cases hlist : scenariosOf rest with
      | nil => rfl
      | cons first others =>
        have hne : id.scenario ≠ first := by
          rintro rfl
          exact hmem (hlist ▸ List.mem_cons_self)
        simp only [List.map_cons, hne, if_false]
        rfl

/-! ## Throughputs -/

/-- The best variant of a scenario with given mean throughputs. -/
def ScenarioBest.ofValues? (scenario : ScenarioId) (values : List (VariantId × Float)) :
    Option ScenarioBest :=
  (firstLargest none values).map fun (variant, throughput) =>
    { scenario, variant, throughput, variantCount := values.length }

theorem ScenarioBest.ofValues?_eq_some {values : List (VariantId × Float)} {best : ScenarioBest} :
    ofValues? scenario values = some best ↔ best.scenario = scenario ∧
      firstLargest none values = some (best.variant, best.throughput) ∧
      best.variantCount = values.length := by
  rw [ofValues?, Option.map_eq_some_iff]
  constructor
  · rintro ⟨found, hfound, rfl⟩
    exact ⟨rfl, hfound, rfl⟩
  · rintro ⟨rfl, hfound, hcount⟩
    exact ⟨_, hfound, by rw [← hcount]⟩

namespace Disk

variable (d : Disk)

theorem throughputs_eq_mapM (results : List (PairId × Path)) :
    d.throughputs results = results.mapM fun result =>
      ((d.throughput result.2).mapError .result).map fun throughput =>
        (result.1.variant, throughput.value) := by
  induction results with
  | nil => rfl
  | cons result rest ih =>
    rw [throughputs, ih, List.mapM_cons]
    cases d.throughput result.2 <;> rfl

/-- The best variant of a scenario with given results. -/
def bestOfGroup (group : ScenarioId × List (PairId × Path)) :
    Except WorkFault (Option ScenarioBest) :=
  (d.throughputs group.2).map (ScenarioBest.ofValues? group.1)

/-- The scenarios are looked at one after the other, and those without a best variant left out. -/
theorem bestOfGroups_eq_mapM (groups : List (ScenarioId × List (PairId × Path))) :
    d.bestOfGroups groups = (groups.mapM d.bestOfGroup).map List.reduceOption := by
  induction groups with
  | nil => rfl
  | cons group rest ih =>
    rw [bestOfGroups, ih, List.mapM_cons, bestOfGroup]
    cases d.throughputs group.2 with
    | error fault => rfl
    | ok values =>
      cases rest.mapM d.bestOfGroup with
      | error fault => rfl
      | ok bests =>
        cases hbest : firstLargest none values <;>
          simp [Except.map, bind, Except.bind, pure, Except.pure, hbest, ScenarioBest.ofValues?]

end Disk

end RackTraffic
