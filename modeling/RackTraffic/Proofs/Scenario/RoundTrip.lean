import RackTraffic.Proofs.Json.Reordered
import RackTraffic.Scenario.Json

/-!
# Batches as texts

**Theorem (`json_roundTrip`).** A batch is read from the text that is written for it, and from every
text with the same members in another order and with any blanks. So different batches have different
texts.

A batch is an object with a shape of scenarios as one member, and the numbers may be as large as
words can be.
-/

namespace RackTraffic

open Json (IsPlain Spaced)
open JsonValue (Reordered ofUInt64)

variable {v : JsonValue}

/-! ## Shapes -/

namespace ScenarioShape

variable (shape : ScenarioShape)

/-- The numbers of a shape, in the order of its fields. -/
def words : List UInt64 :=
  [shape.rackCount, shape.flowsPerStep, shape.timeSteps, shape.transferSize.count,
    shape.dataRate.rate]

theorem isPlain_toJson : IsPlain shape.toJson := by
  have hwords : ∀ v ∈ shape.words.map ofUInt64, IsPlain v :=
    List.forall_mem_map.mpr fun n _ => .ofNat n.toNat
  exact JsonValue.isPlain_zip (by simp [fieldNames, Json.IsUnescaped]) hwords

variable {shape}

theorem ofJson?_of_reordered (h : v.Reordered shape.toJson) : ofJson? v = some shape := by
  obtain ⟨values, hfields, hvalues⟩ := h.fieldValues (by decide)
    (JsonValue.hasMember_zip (by decide) (shape.words.map ofUInt64) rfl)
  rw [Reordered.eq_map_ofUInt64 hvalues] at hfields
  simp [ofJson?, hfields, words]

end ScenarioShape

/-! ## Batches -/

namespace BatchShape

variable (shape : BatchShape)

/-- The numbers of a batch besides those of its scenarios, in the order of its fields. -/
def words : List UInt64 := [shape.scenarioCount, shape.variantsPerScenario, shape.wirelessCount]

theorem isPlain_toJson : IsPlain shape.toJson := by
  have hwords : ∀ v ∈ shape.words.map ofUInt64, IsPlain v :=
    List.forall_mem_map.mpr fun n _ => .ofNat n.toNat
  have hvalues := List.forall_mem_cons.mpr ⟨shape.scenario.isPlain_toJson, hwords⟩
  exact JsonValue.isPlain_zip (by simp [fieldNames, Json.IsUnescaped]) hvalues

variable {shape}

theorem ofJson?_of_reordered (h : v.Reordered shape.toJson) : ofJson? v = some shape := by
  obtain ⟨values, hfields, hvalues⟩ := h.fieldValues (by decide)
    (JsonValue.hasMember_zip (by decide) (shape.scenario.toJson :: shape.words.map ofUInt64) rfl)
  cases hvalues with
  | cons hscenario hwords =>
    rw [Reordered.eq_map_ofUInt64 hwords] at hfields
    simp [ofJson?, hfields, words, ScenarioShape.ofJson?_of_reordered hscenario]

theorem ofText?_of_spaced {text : String} (h : v.Reordered shape.toJson)
    (htext : Spaced v.tokens text.toList) : ofText? text = some shape := by
  rw [ofText?, Json.read?_of_spaced (h.isPlain shape.isPlain_toJson) htext]
  exact ofJson?_of_reordered h

theorem ofText?_toText (shape : BatchShape) : ofText? shape.toText = some shape := by
  refine ofText?_of_spaced (.refl _) ?_
  rw [toText, JsonValue.compactText, String.toList_ofList]
  exact Json.spaced_compact shape.toJson

/-- **A batch survives being written as a text.** It is read from its own text, and from a text that
has its members in any order, inside its scenarios too, and any blanks around the tokens. No other
batch has its text. -/
theorem json_roundTrip :
    (∀ shape : BatchShape, ofText? shape.toText = some shape) ∧
    (∀ (shape : BatchShape) (v : JsonValue) (text : String), v.Reordered shape.toJson →
      Spaced v.tokens text.toList → ofText? text = some shape) ∧
    Function.Injective toText := by
  refine ⟨ofText?_toText, fun _ _ _ => ofText?_of_spaced, fun shape shape' h => ?_⟩
  have hread := ofText?_toText shape
  rw [h, ofText?_toText] at hread
  exact (Option.some.inj hread).symm

/-- A batch with the least and the largest of words. -/
def extremes : BatchShape where
  scenario := {
    rackCount := 18446744073709551615
    flowsPerStep := 0
    timeSteps := 18446744073709551615
    transferSize := ⟨18446744073709551615⟩
    dataRate := ⟨0⟩ }
  scenarioCount := 0
  variantsPerScenario := 18446744073709551615
  wirelessCount := 7

/-- The same with the members backwards. -/
def extremesBackwards : JsonValue := .ofMembers [
  ("nr_wireless", .ofUInt64 7),
  ("variants_per_scenario", .ofUInt64 18446744073709551615),
  ("nr_scenarios", .ofUInt64 0),
  ("scenario", .ofMembers [
    ("data_rate", .ofUInt64 0),
    ("transfer_size", .ofUInt64 18446744073709551615),
    ("time_steps", .ofUInt64 18446744073709551615),
    ("flows_per_step", .ofUInt64 0),
    ("num_tors", .ofUInt64 18446744073709551615) ])]

/-- A text of it with blanks everywhere. -/
def extremesText : String :=
  String.ofList (extremesBackwards.tokens.flatMap (Json.blanks ++ ·) ++ Json.blanks)

theorem json_roundTrip_extremes :
    extremesBackwards.Reordered extremes.toJson ∧
      Spaced extremesBackwards.tokens extremesText.toList ∧
        ofText? extremesText = some extremes := by
  have hreordered : extremesBackwards.Reordered extremes.toJson :=
    .trans (.members (List.reverse_perm _).symm)
      (@Reordered.value [] _ _ _ _ (.members (List.reverse_perm _).symm))
  have hspaced : Spaced extremesBackwards.tokens extremesText.toList := by
    rw [extremesText, String.toList_ofList]
    exact Json.spaced_padded (List.Subset.refl _) _
  exact ⟨hreordered, hspaced, json_roundTrip.2.1 _ _ _ hreordered hspaced⟩

end BatchShape

end RackTraffic
