import Mathlib
import RackTraffic.Draw.SplitMix
import RackTraffic.Proofs.Draw.Sample
import RackTraffic.Proofs.Scenario.Pair

/-!
# What is drawn fits the shape

A scenario that is drawn to a shape has as many flows as the shape says, those of one time step side
by side, and the flows of one time step lead between different pairs of racks
(`draw_fitsShape`).

The invariant of the recursion over time steps is about *blocks*: the flows of the steps that are
left are blocks of equal length, one for each step, and each block is a sample of pair numbers with
every number turned into a flow. That numbers stand for pairs one to one carries the sampler's
promise over to the pairs.
-/

namespace RackTraffic

open Draw (Yields IsSample)

variable {σ α β : Type}

/-! ## Drawings that cannot fail -/

namespace Drawing

/-- Every end of a drawing is a success with a value that satisfies `p`. -/
def Succeeds (act : Drawing σ α) (p : α → Prop) : Prop :=
  Yields act.run fun r => ∃ a, r = .ok a ∧ p a

theorem succeeds_pure {a : α} {p : α → Prop} (h : p a) : Succeeds (pure a : Drawing σ α) p :=
  Draw.yields_pure ⟨a, rfl, h⟩

theorem Succeeds.bind {act : Drawing σ α} {f : α → Drawing σ β} {p : α → Prop} {q : β → Prop}
    (h : Succeeds act p) (hf : ∀ a, p a → Succeeds (f a) q) : Succeeds (act >>= f) q := by
  refine Draw.Yields.bind h fun r hr => ?_
  obtain ⟨a, rfl, ha⟩ := hr
  exact hf a ha

theorem succeeds_lift {act : Draw σ α} {p : α → Prop} (h : Yields act p) :
    Succeeds (liftM act : Drawing σ α) p :=
  Draw.Yields.map fun s a s' ha => ⟨a, rfl, h s a s' ha⟩

theorem succeeds_ok {e : Except DrawFault α} {a : α} {p : α → Prop} (he : e = .ok a) (h : p a) :
    Succeeds (liftM e : Drawing σ α) p := by
  subst he
  exact succeeds_pure h

end Drawing

/-! ## The flows of a time step -/

namespace ScenarioShape

variable {shape : ScenarioShape}

/-- The flow of a shape between the pair with a given number, whether or not it may be drawn. -/
def flowAt (shape : ScenarioShape) (timeStep number : Nat) : Flow where
  timeStep := .ofNat timeStep
  source := (nthPair shape.rackCount (.ofNat number)).1
  destination := (nthPair shape.rackCount (.ofNat number)).2
  label := .tcp
  size := shape.transferSize
  rate := shape.dataRate

/-- A number of a pair is a word, and it is in the range of the numbering. -/
theorem bounds_of_lt_pairCount {number : Nat} (h : number < shape.pairCount) :
    number < UInt64.size ∧ number < shape.rackCount.toNat * (shape.rackCount.toNat - 1) :=
  ⟨Nat.lt_of_lt_of_le h (Nat.le_trans (Nat.min_le_right _ _) (by decide)),
    Nat.lt_of_lt_of_le h (Nat.min_le_left _ _)⟩

theorem flowAt_injective {t t' number number' : Nat} (h : number < shape.pairCount)
    (h' : number' < shape.pairCount)
    (heq : ((shape.flowAt t number).source, (shape.flowAt t number).destination) =
      ((shape.flowAt t' number').source, (shape.flowAt t' number').destination)) :
    number = number' := by
  obtain ⟨hword, hrange⟩ := bounds_of_lt_pairCount h
  obtain ⟨hword', hrange'⟩ := bounds_of_lt_pairCount h'
  exact nthPair_injective hword hrange hword' hrange' heq

theorem flow_eq_ok (hsize : shape.transferSize.count ≠ 0) (timeStep : Nat) {number : Nat}
    (h : number < shape.pairCount) :
    shape.flow (.ofNat timeStep) number = .ok (shape.flowAt timeStep number) := by
  obtain ⟨hword, hrange⟩ := bounds_of_lt_pairCount h
  simp only [flow, Flow.tcp, if_neg (nthPair_ne hword hrange), if_neg hsize]
  rfl

theorem flows_eq_ok (hsize : shape.transferSize.count ≠ 0) (timeStep : Nat) {numbers : List Nat}
    (h : ∀ number ∈ numbers, number < shape.pairCount) :
    shape.flows (.ofNat timeStep) numbers = .ok (numbers.map (shape.flowAt timeStep)) := by
  have hmap : numbers.mapM (shape.flow (.ofNat timeStep)) =
      .ok (numbers.map (shape.flowAt timeStep)) := by
    induction numbers with
    | nil => rfl
    | cons number rest ih =>
      obtain ⟨hnumber, hrest⟩ := List.forall_mem_cons.mp h
      rw [List.mapM_cons, flow_eq_ok hsize timeStep hnumber, ih hrest]
      rfl
  rw [flows, hmap]
  rfl

/-! ## Blocks -/

/-- Flows in blocks of `flowsPerStep`, one block for each of `steps` time steps from `first` on. -/
structure InBlocks (shape : ScenarioShape) (steps first : Nat) (flows : List Flow) : Prop where
  length_eq : flows.length = steps * shape.flowsPerStep.toNat
  block : ∀ t < steps, ∃ numbers, IsSample shape.pairCount shape.flowsPerStep.toNat numbers ∧
    (flows.drop (t * shape.flowsPerStep.toNat)).take shape.flowsPerStep.toNat =
      numbers.map (shape.flowAt (first + t))

theorem InBlocks.cons {steps first : Nat} {flows : List Flow} {numbers : List Nat}
    (hnumbers : IsSample shape.pairCount shape.flowsPerStep.toNat numbers)
    (h : InBlocks shape steps (first + 1) flows) :
    InBlocks shape (steps + 1) first (numbers.map (shape.flowAt first) ++ flows) := by
  have hlen : (numbers.map (shape.flowAt first)).length = shape.flowsPerStep.toNat := by
    rw [List.length_map, hnumbers.length_eq]
  refine ⟨by rw [List.length_append, hlen, h.length_eq, Nat.succ_mul, Nat.add_comm], ?_⟩
  rintro (_ | t) ht
  · refine ⟨numbers, hnumbers, ?_⟩
    rw [Nat.zero_mul, List.drop_zero, List.take_append_of_le_length hlen.ge,
      List.take_of_length_le hlen.le, Nat.add_zero]
  · obtain ⟨other, hother, hblock⟩ := h.block t (Nat.lt_of_succ_lt_succ ht)
    refine ⟨other, hother, ?_⟩
    rw [Nat.succ_mul, Nat.add_comm, ← hlen, List.drop_length_add_append, hlen, hblock,
      Nat.add_right_comm, Nat.add_assoc]

/-- Every flow stands at one place of one block. -/
theorem InBlocks.exists_block {steps first : Nat} {flows : List Flow}
    (h : InBlocks shape steps first flows) {i : Nat} (hi : i < flows.length) :
    ∃ t < steps, ∃ k < shape.flowsPerStep.toNat, i = t * shape.flowsPerStep.toNat + k := by
  rw [h.length_eq] at hi
  have hpos : 0 < shape.flowsPerStep.toNat := Nat.pos_of_ne_zero fun h0 => by simp [h0] at hi
  refine ⟨i / shape.flowsPerStep.toNat, Nat.div_lt_of_lt_mul (by rwa [Nat.mul_comm]),
    i % shape.flowsPerStep.toNat, Nat.mod_lt _ hpos, ?_⟩
  rw [Nat.mul_comm, Nat.div_add_mod]

/-- The flows of a block, by their places. -/
theorem InBlocks.getElem_eq {steps first t : Nat} {flows : List Flow}
    (h : InBlocks shape steps first flows) (ht : t < steps) :
    ∃ numbers, IsSample shape.pairCount shape.flowsPerStep.toNat numbers ∧
      ∀ k (_ : k < numbers.length) (_ : t * shape.flowsPerStep.toNat + k < flows.length),
        flows[t * shape.flowsPerStep.toNat + k] = shape.flowAt (first + t) numbers[k] := by
  obtain ⟨numbers, hnumbers, hblock⟩ := h.block t ht
  refine ⟨numbers, hnumbers, fun k hk hi => ?_⟩
  have hget : flows[t * shape.flowsPerStep.toNat + k]? =
      some (shape.flowAt (first + t) numbers[k]) := by
    rw [← List.getElem?_drop, ← List.getElem?_take_of_lt (hnumbers.length_eq ▸ hk), hblock,
      List.getElem?_map, List.getElem?_eq_getElem hk, Option.map_some]
  rwa [List.getElem?_eq_getElem hi, Option.some.injEq] at hget

/-- Every flow is that of some pair at the time step of its block. -/
theorem InBlocks.exists_flowAt {steps first i : Nat} {flows : List Flow}
    (h : InBlocks shape steps first flows) (hi : i < flows.length) :
    ∃ number < shape.pairCount,
      flows[i] = shape.flowAt (first + i / shape.flowsPerStep.toNat) number := by
  obtain ⟨t, ht, k, hk, rfl⟩ := h.exists_block hi
  obtain ⟨numbers, hnumbers, hget⟩ := h.getElem_eq ht
  have hk' : k < numbers.length := hnumbers.length_eq.symm ▸ hk
  refine ⟨numbers[k], hnumbers.lt _ (List.getElem_mem hk'), ?_⟩
  rw [hget k hk' hi, Nat.mul_comm, Nat.mul_add_div (Nat.zero_lt_of_lt hk), Nat.div_eq_of_lt hk,
    Nat.add_zero]

/-- Time steps are counted in words, and there are no more of them than words. -/
theorem InBlocks.timeStep_eq {i : Nat} {flows : List Flow}
    (h : InBlocks shape shape.timeSteps.toNat 0 flows) (hi : i < flows.length) :
    flows[i].timeStep.toNat = i / shape.flowsPerStep.toNat := by
  obtain ⟨number, -, hflow⟩ := h.exists_flowAt hi
  rw [hflow, flowAt, Nat.zero_add]
  apply UInt64.toNat_ofNat_of_lt'
  rw [h.length_eq] at hi
  exact Nat.lt_trans (Nat.div_lt_of_lt_mul (by rwa [Nat.mul_comm])) shape.timeSteps.toNat_lt

/-- Within one block the pairs are different, because their numbers are. -/
theorem InBlocks.pairwise {flows : List Flow} (h : InBlocks shape shape.timeSteps.toNat 0 flows) :
    flows.Pairwise fun f g => f.timeStep = g.timeStep →
      (f.source, f.destination) ≠ (g.source, g.destination) := by
  refine List.pairwise_iff_getElem.mpr fun i j hi hj hij htime heq => ?_
  have hstep : i / shape.flowsPerStep.toNat = j / shape.flowsPerStep.toNat := by
    rw [← h.timeStep_eq hi, ← h.timeStep_eq hj, htime]
  obtain ⟨t, ht, k, hk, rfl⟩ := h.exists_block hi
  have hj' : j = t * shape.flowsPerStep.toNat + j % shape.flowsPerStep.toNat := by
    rw [Nat.mul_comm, Nat.mul_add_div (Nat.zero_lt_of_lt hk), Nat.div_eq_of_lt hk,
      Nat.add_zero] at hstep
    rw [hstep, Nat.mul_comm, Nat.div_add_mod]
  obtain ⟨numbers, hnumbers, hget⟩ := h.getElem_eq ht
  generalize hl : j % shape.flowsPerStep.toNat = l at hj'
  have hl' : l < numbers.length := by
    rw [hnumbers.length_eq, ← hl]
    exact Nat.mod_lt _ (Nat.zero_lt_of_lt hk)
  subst hj'
  have hk' : k < numbers.length := hnumbers.length_eq.symm ▸ hk
  rw [hget k hk' hi, hget l hl' hj] at heq
  have hnumber := flowAt_injective (hnumbers.lt _ (List.getElem_mem hk'))
    (hnumbers.lt _ (List.getElem_mem hl')) heq
  have := hnumbers.nodup.getElem_inj_iff.mp hnumber
  omega

end ScenarioShape

/-! ## Scenarios that fit a shape -/

/-- The flows of a log are what the shape asks for. -/
structure FlowLog.FitsShape (log : FlowLog) (shape : ScenarioShape) : Prop where
  length_eq : log.flows.length = shape.timeSteps.toNat * shape.flowsPerStep.toNat
  /-- The flows of one time step stand side by side, the time steps in order. -/
  timeStep : ∀ t < shape.timeSteps.toNat, ∀ k < shape.flowsPerStep.toNat,
    ∃ flow, log.flows[t * shape.flowsPerStep.toNat + k]? = some flow ∧ flow.timeStep.toNat = t
  /-- No two flows of one time step lead between the same racks. -/
  distinct : log.flows.Pairwise fun f g => f.timeStep = g.timeStep →
    (f.source, f.destination) ≠ (g.source, g.destination)
  between : ∀ flow ∈ log.flows, flow.source ≠ flow.destination ∧
    flow.source.index < shape.rackCount ∧ flow.destination.index < shape.rackCount
  transfer : ∀ flow ∈ log.flows, flow.label = .tcp ∧ flow.size = shape.transferSize ∧
    flow.rate = shape.dataRate

namespace ScenarioShape

variable {shape : ScenarioShape}

theorem InBlocks.fitsShape {log : FlowLog} (h : InBlocks shape shape.timeSteps.toNat 0 log.flows) :
    log.FitsShape shape where
  length_eq := h.length_eq
  timeStep t ht k hk := by
    have hi : t * shape.flowsPerStep.toNat + k < log.flows.length := by
      rw [h.length_eq]
      calc t * shape.flowsPerStep.toNat + k
          < (t + 1) * shape.flowsPerStep.toNat := by rw [Nat.succ_mul]; omega
        _ ≤ shape.timeSteps.toNat * shape.flowsPerStep.toNat := Nat.mul_le_mul_right _ ht
    refine ⟨_, List.getElem?_eq_getElem hi, ?_⟩
    rw [h.timeStep_eq hi, Nat.mul_comm, Nat.mul_add_div (Nat.zero_lt_of_lt hk),
      Nat.div_eq_of_lt hk, Nat.add_zero]
  distinct := h.pairwise
  between flow hflow := by
    obtain ⟨i, hi, rfl⟩ := List.getElem_of_mem hflow
    obtain ⟨number, hnumber, hflow⟩ := h.exists_flowAt hi
    obtain ⟨hword, hrange⟩ := bounds_of_lt_pairCount hnumber
    rw [hflow]
    exact ⟨nthPair_ne hword hrange, nthPair_lt hword hrange⟩
  transfer flow hflow := by
    obtain ⟨i, hi, rfl⟩ := List.getElem_of_mem hflow
    obtain ⟨number, -, hflow⟩ := h.exists_flowAt hi
    rw [hflow]
    exact ⟨rfl, rfl, rfl⟩

/-! ## Drawing a scenario -/

/-- A shape that is not refused asks for no more flows at a time step than there are pairs. -/
theorem le_pairCount_of_check (h : shape.check = .ok ()) :
    shape.flowsPerStep.toNat ≤ shape.pairCount := by
  by_contra hlt
  simp [check, checkSample, Nat.lt_of_not_le hlt, bind, Except.bind] at h

variable [WordSource σ]

theorem succeeds_drawSteps (hsize : shape.transferSize.count ≠ 0)
    (hle : shape.flowsPerStep.toNat ≤ shape.pairCount) (steps first : Nat) :
    Drawing.Succeeds (shape.drawSteps steps first : Drawing σ (List Flow))
      (InBlocks shape steps first) := by
  induction steps generalizing first with
  | zero => exact Drawing.succeeds_pure ⟨by simp, fun t ht => absurd ht t.not_lt_zero⟩
  | succ steps ih =>
    refine .bind (Drawing.succeeds_lift (Draw.yields_sample hle)) fun numbers hnumbers => ?_
    refine .bind (p := fun flows => flows = numbers.map (shape.flowAt first))
      (Drawing.succeeds_ok (flows_eq_ok hsize first hnumbers.lt) rfl) fun flows hflows => ?_
    refine .bind (ih (first + 1)) fun rest hrest => ?_
    subst hflows
    exact Drawing.succeeds_pure (hrest.cons hnumbers)

/-- A scenario of a shape that is not refused is drawn step by step. -/
theorem draw_of_check (hcheck : shape.check = .ok ()) (scenario : ScenarioId) :
    (shape.draw scenario : Drawing σ FlowLog) = do
      let flows ← shape.drawSteps shape.timeSteps.toNat 0
      return { scenario, flows } := by
  rw [draw, hcheck]
  exact pure_bind () _

theorem succeeds_draw (hcheck : shape.check = .ok ()) (hsize : shape.transferSize.count ≠ 0)
    (scenario : ScenarioId) :
    Drawing.Succeeds (shape.draw scenario : Drawing σ FlowLog) fun log =>
      log.scenario = scenario ∧ log.FitsShape shape := by
  rw [draw_of_check hcheck]
  refine .bind (succeeds_drawSteps hsize (le_pairCount_of_check hcheck) _ 0) fun flows hflows => ?_
  have hfits : FlowLog.FitsShape ⟨scenario, flows⟩ shape := InBlocks.fitsShape hflows
  exact Drawing.succeeds_pure ⟨rfl, hfits⟩

/-- **Drawn scenarios fit their shape.** If a shape is not refused and its flows transfer data, then
every drawing that ends has drawn a log of the scenario in which every time step has the number of
flows that the shape says, between different pairs of different racks of the network. Nothing is
assumed of the source: it may yield any words, and the sizes may select any way of sampling. -/
theorem draw_fitsShape (hcheck : shape.check = .ok ()) (hsize : shape.transferSize.count ≠ 0)
    (scenario : ScenarioId) {s s' : σ} {r : Except DrawFault FlowLog}
    (h : shape.draw scenario s = some (r, s')) :
    ∃ log, r = .ok log ∧ log.scenario = scenario ∧ log.FitsShape shape :=
  succeeds_draw hcheck hsize scenario s r s' h

/-- Two time steps with two flows each among three racks. -/
def threeRacks : ScenarioShape := { rackCount := 3, flowsPerStep := 2, timeSteps := 2 }

theorem draw_threeRacks : threeRacks.check = .ok () ∧ threeRacks.transferSize.count ≠ 0 ∧
    ∃ log s', threeRacks.draw ⟨7⟩ (⟨0⟩ : SplitMix) = some (.ok log, s') ∧
      log.FitsShape threeRacks := by
  have hsample : (Draw.sample threeRacks.pairCount threeRacks.flowsPerStep.toNat :
      Draw SplitMix (List Nat)) = Draw.sampleOnePass 6 2 := by
    rw [show threeRacks.pairCount = 6 by decide, show threeRacks.flowsPerStep.toNat = 2 by decide,
      Draw.sample, show Draw.way 6 2 = .onePass by decide]
  have h : ∃ log s', threeRacks.draw ⟨7⟩ (⟨0⟩ : SplitMix) = some (.ok log, s') := by
    rw [draw, show threeRacks.timeSteps.toNat = 2 by decide]
    simp only [drawSteps, hsample]
    refine ⟨⟨⟨7⟩, [0, 0, 1, 1].zipWith threeRacks.flowAt [4, 2, 5, 0]⟩, ⟨1663341875487337577⟩, ?_⟩
    cbv
  obtain ⟨log, s', h⟩ := h
  obtain ⟨_, hlog, -, hfits⟩ := draw_fitsShape (by decide) (by decide) ⟨7⟩ h
  cases hlog
  exact ⟨by decide, by decide, log, s', h, hfits⟩

end ScenarioShape

end RackTraffic
