import Mathlib.Data.Nat.Basic
import RackTraffic.Scenario.Shape

/-!
# Which shapes are refused

A batch is refused if it asks for too much in one of three ways, and the first of them that applies
is told (`BatchShape.Exceeds`, `BatchShape.check_eq_error`). If none applies it is accepted
(`BatchShape.check_eq_ok`).
-/

namespace RackTraffic

namespace ScenarioShape

/-- The number of ordered pairs of different racks, without a limit. -/
def pairTotal (shape : ScenarioShape) : Nat :=
  shape.rackCount.toNat * (shape.rackCount.toNat - 1)

/-- The number of flows of a scenario, without a limit. -/
def flowTotal (shape : ScenarioShape) : Nat := shape.timeSteps.toNat * shape.flowsPerStep.toNat

/-- The limit does not matter where the pairs are too few: it is no smaller than any request. -/
theorem pairCount_lt_iff (shape : ScenarioShape) :
    shape.pairCount < shape.flowsPerStep.toNat ↔ shape.pairTotal < shape.flowsPerStep.toNat := by
  have hrequest := shape.flowsPerStep.toNat_lt
  have hlimit : maxCount = 2 ^ 64 - 1 := by decide
  rw [pairCount, pairTotal]
  omega

theorem pairCount_of_lt {shape : ScenarioShape}
    (h : shape.pairTotal < shape.flowsPerStep.toNat) : shape.pairCount = shape.pairTotal := by
  have hrequest := shape.flowsPerStep.toNat_lt
  have hlimit : maxCount = 2 ^ 64 - 1 := by decide
  rw [pairTotal] at h ⊢
  rw [pairCount]
  omega

theorem flowCount_eq (shape : ScenarioShape) :
    shape.flowCount =
      if shape.flowTotal < UInt64.size then .ok shape.flowTotal else .error .uncountable := by
  have hlimit : shape.flowTotal ≤ maxCount ↔ shape.flowTotal < UInt64.size :=
    Nat.le_sub_one_iff_lt (by decide)
  have hcount? : shape.flowCount? =
      if shape.flowTotal < UInt64.size then some shape.flowTotal else none := by
    rw [← ite_cond_congr (propext hlimit)]
    rfl
  rw [flowCount, hcount?]
  split_ifs <;> rfl

end ScenarioShape

/-- What a batch asks for too much of. A way applies only if none before it does. -/
inductive BatchShape.Exceeds (shape : BatchShape) : SampleFault → Prop where
  /-- More flows at a time step than there are ordered pairs of different racks. -/
  | pairs (h : shape.scenario.pairTotal < shape.scenario.flowsPerStep.toNat) :
      Exceeds shape (.tooMany .pairs shape.scenario.flowsPerStep.toNat shape.scenario.pairTotal)
  /-- More flows than can be counted. -/
  | flows (hpairs : shape.scenario.flowsPerStep.toNat ≤ shape.scenario.pairTotal)
      (h : UInt64.size ≤ shape.scenario.flowTotal) : Exceeds shape .uncountable
  /-- More wireless flows in each variant than there are flows, if there are variants at all. -/
  | wireless (hpairs : shape.scenario.flowsPerStep.toNat ≤ shape.scenario.pairTotal)
      (hflows : shape.scenario.flowTotal < UInt64.size)
      (hvariants : 0 < shape.variantsPerScenario.toNat)
      (h : shape.scenario.flowTotal < shape.wirelessCount.toNat) :
      Exceeds shape (.tooMany .flows shape.wirelessCount.toNat shape.scenario.flowTotal)

namespace BatchShape

variable {shape : BatchShape} {fault : SampleFault}

/-- The checks one after the other. -/
theorem check_eq (shape : BatchShape) : shape.check =
    if shape.scenario.pairTotal < shape.scenario.flowsPerStep.toNat then
      .error (.tooMany .pairs shape.scenario.flowsPerStep.toNat shape.scenario.pairTotal)
    else if shape.scenario.flowTotal < UInt64.size then
      if shape.variantsPerScenario = 0 then .ok ()
      else if shape.scenario.flowTotal < shape.wirelessCount.toNat then
        .error (.tooMany .flows shape.wirelessCount.toNat shape.scenario.flowTotal)
      else .ok ()
    else .error .uncountable := by
  unfold check ScenarioShape.check
  rw [ScenarioShape.flowCount_eq]
  unfold checkSample
  simp only [ScenarioShape.pairCount_lt_iff]
  split_ifs with hpairs hflows hzero hwireless <;>
    simp_all [ScenarioShape.pairCount_of_lt, bind, Except.bind, pure, Except.pure]

/-- There are no variants, or there is at least one. -/
theorem variantsPerScenario_eq_zero_iff :
    shape.variantsPerScenario = 0 ↔ ¬ 0 < shape.variantsPerScenario.toNat := by
  rw [← UInt64.toNat_inj, UInt64.toNat_zero]
  omega

theorem check_eq_error : shape.check = .error fault ↔ shape.Exceeds fault := by
  rw [check_eq]
  constructor
  · intro h
    split_ifs at h with hpairs hflows hzero hwireless
    · cases h
      exact .pairs hpairs
    · cases h
      exact .wireless (Nat.le_of_not_lt hpairs) hflows
        (Decidable.not_not.mp (mt variantsPerScenario_eq_zero_iff.mpr hzero)) hwireless
    · cases h
      exact .flows (Nat.le_of_not_lt hpairs) (Nat.le_of_not_lt hflows)
  · rintro (h | ⟨hpairs, h⟩ | ⟨hpairs, hflows, hpos, h⟩)
    · exact if_pos h
    · rw [if_neg (Nat.not_lt.mpr hpairs), if_neg (Nat.not_lt.mpr h)]
    · have hzero : ¬ shape.variantsPerScenario = 0 :=
        fun h => variantsPerScenario_eq_zero_iff.mp h hpos
      rw [if_neg (Nat.not_lt.mpr hpairs), if_pos hflows, if_neg hzero, if_pos h]

theorem check_eq_ok : shape.check = .ok () ↔ ∀ fault, ¬ shape.Exceeds fault := by
  constructor
  · intro h fault hexceeds
    rw [check_eq_error.mpr hexceeds] at h
    cases h
  · intro h
    cases hcheck : shape.check with
    | ok u => rfl
    | error fault => exact absurd (check_eq_error.mp hcheck) (h fault)

/-- The scenarios of a batch that is not refused are not refused either. -/
theorem scenario_check_of_check (h : shape.check = .ok ()) : shape.scenario.check = .ok () := by
  unfold check at h
  cases hcheck : shape.scenario.check with
  | ok u => rfl
  | error fault =>
    rw [hcheck] at h
    cases h

/-- The variants of a batch that is not refused are not refused either. -/
theorem wirelessCount_le_of_check (h : shape.check = .ok ())
    (hvariants : 0 < shape.variantsPerScenario.toNat) :
    shape.wirelessCount.toNat ≤ shape.scenario.flowTotal := by
  rw [check_eq] at h
  split_ifs at h with hpairs hflows hzero hwireless
  · exact absurd hvariants (variantsPerScenario_eq_zero_iff.mp hzero)
  · exact Nat.le_of_not_lt hwireless

end BatchShape

end RackTraffic
