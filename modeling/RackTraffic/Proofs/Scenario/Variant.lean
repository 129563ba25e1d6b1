import Mathlib.Data.List.Perm.Basic
import RackTraffic.Proofs.Scenario.Drawing
import RackTraffic.Traffic.Name

/-!
# How drawings end

A scenario of a shape that is not refused can fail in one way only: its flows would transfer nothing
(`ScenarioShape.NoData`). Otherwise its flows stand in blocks (`ends_draw`), even if the shape says
that flows transfer nothing, for then there are none.

A variant of a scenario has the same flows in the same order. As many of them are wireless as were
asked for, and all others are wired (`FlowLog.IsVariant`, `isVariant_allocate`): the places that are
chosen are different, so each of them makes one more flow wireless. Whether a variant is drawn is
decided before the source is asked for anything (`FlowLog.drawVariant_apply`).

**Theorem (`FlowLog.drawVariant_exact`).** Of any flows, exactly as many become wireless as were
asked for, whatever the source yields, or the request is refused because there are too few flows.
-/

namespace RackTraffic

open Draw (Yields IsSample)

variable {σ α β ε : Type}

/-- A value satisfies `p`, or a fault satisfies `q`. -/
def IsEnd (p : α → Prop) (q : ε → Prop) : Except ε α → Prop
  | .ok a => p a
  | .error fault => q fault

theorem bind_apply {τ : Type} (act : ExceptT ε (StateT τ Option) α)
    (f : α → ExceptT ε (StateT τ Option) β) (w : τ) :
    (act >>= f) w = (act w).bind fun (r, w') =>
      match r with
      | .ok a => f a w'
      | .error fault => some (.error fault, w') := by
  simp only [bind, ExceptT.bind, ExceptT.mk, StateT.bind]
  congr 1
  funext (r, w')
  cases r <;> rfl

/-- A sequence of two steps ends well if and only if both do. -/
theorem bind_eq_some_ok {τ : Type} {act : ExceptT ε (StateT τ Option) α}
    {f : α → ExceptT ε (StateT τ Option) β} {w w' : τ} {b : β} :
    (act >>= f) w = some (.ok b, w') ↔
      ∃ a v, act w = some (.ok a, v) ∧ f a v = some (.ok b, w') := by
  rw [bind_apply, Option.bind_eq_some_iff]
  constructor
  · rintro ⟨⟨r, v⟩, hact, hf⟩
    cases r with
    | ok a => exact ⟨a, v, hact, hf⟩
    | error fault => cases hf
  · rintro ⟨a, v, hact, hf⟩
    exact ⟨(.ok a, v), hact, hf⟩

namespace Drawing

/-- A draw cannot fail. -/
theorem lift_apply (act : Draw σ α) (s : σ) :
    (liftM act : Drawing σ α) s = (act s).map fun (a, s') => (.ok a, s') := by
  show (act >>= fun a => pure (Except.ok a)) s = _
  cases h : act s <;> simp [bind, StateT.bind, h, pure, StateT.pure]

/-- Every end of a drawing is a value that satisfies `p` or a fault that satisfies `q`. -/
def Ends (act : Drawing σ α) (p : α → Prop) (q : DrawFault → Prop) : Prop :=
  Yields act.run (IsEnd p q)

variable {p : α → Prop} {q : DrawFault → Prop}

theorem Succeeds.ends {act : Drawing σ α} (h : Succeeds act p) : Ends act p q := by
  refine Yields.mono h fun r hr => ?_
  obtain ⟨a, rfl, ha⟩ := hr
  exact ha

theorem ends_pure {a : α} (h : p a) : Ends (pure a : Drawing σ α) p q := (succeeds_pure h).ends

theorem Ends.bind {act : Drawing σ α} {f : α → Drawing σ β} {p' : β → Prop} (h : Ends act p q)
    (hf : ∀ a, p a → Ends (f a) p' q) : Ends (act >>= f) p' q := by
  refine Yields.bind h fun r hr => ?_
  cases r with
  | ok a => exact hf a hr
  | error fault =>
    have herror : IsEnd p' q (.error fault) := hr
    exact Draw.yields_pure herror

theorem Ends.mono {act : Drawing σ α} {q' : DrawFault → Prop} (h : Ends act p q)
    (hq : ∀ fault, q fault → q' fault) : Ends act p q' := by
  refine Yields.mono h fun r hr => ?_
  cases r with
  | ok a => exact hr
  | error fault => exact hq fault hr

theorem ends_lift {act : Draw σ α} (h : Yields act p) : Ends (liftM act : Drawing σ α) p q :=
  (succeeds_lift h).ends

theorem ends_error {e : Except DrawFault α} {fault : DrawFault} (he : e = .error fault)
    (h : q fault) : Ends (liftM e : Drawing σ α) p q := by
  subst he
  have herror : IsEnd p q (.error fault) := h
  exact Draw.yields_pure herror

end Drawing

/-! ## Scenarios -/

namespace ScenarioShape

variable {shape : ScenarioShape}

/-- A fault that says that flows would transfer nothing, for a shape that says so. -/
def NoData (shape : ScenarioShape) (fault : DrawFault) : Prop :=
  shape.transferSize.count = 0 ∧ ∃ source destination, fault = .badFlow (.noData source destination)

/-- Flows that transfer nothing are refused. -/
theorem flows_eq_error (hsize : shape.transferSize.count = 0) (timeStep : Nat) {numbers : List Nat}
    (hne : numbers ≠ []) (h : ∀ number ∈ numbers, number < shape.pairCount) :
    ∃ fault, shape.NoData fault ∧ shape.flows (.ofNat timeStep) numbers = .error fault := by
  obtain ⟨number, rest, rfl⟩ := List.exists_cons_of_ne_nil hne
  obtain ⟨hword, hrange⟩ := bounds_of_lt_pairCount (h number (by simp))
  obtain ⟨source, destination, hflow⟩ : ∃ source destination,
      shape.flow (.ofNat timeStep) number = .error (.noData source destination) := by
    simp only [flow, Flow.tcp, if_neg (nthPair_ne hword hrange), if_pos hsize]
    exact ⟨_, _, rfl⟩
  refine ⟨_, ⟨hsize, source, destination, rfl⟩, ?_⟩
  rw [flows, List.mapM_cons, hflow]
  rfl

theorem flows_cases (timeStep : Nat) {numbers : List Nat}
    (h : ∀ number ∈ numbers, number < shape.pairCount) :
    shape.flows (.ofNat timeStep) numbers = .ok (numbers.map (shape.flowAt timeStep)) ∨
      ∃ fault, shape.NoData fault ∧ shape.flows (.ofNat timeStep) numbers = .error fault := by
  by_cases hsize : shape.transferSize.count = 0
  · by_cases hne : numbers = []
    · subst hne
      exact .inl rfl
    · exact .inr (flows_eq_error hsize timeStep hne h)
  · exact .inl (flows_eq_ok hsize timeStep h)

theorem ends_drawSteps [WordSource σ] (hle : shape.flowsPerStep.toNat ≤ shape.pairCount)
    (steps first : Nat) :
    Drawing.Ends (shape.drawSteps steps first : Drawing σ (List Flow))
      (InBlocks shape steps first) shape.NoData := by
  induction steps generalizing first with
  | zero =>
    have hnil : InBlocks shape 0 first [] := ⟨by simp, fun t ht => absurd ht t.not_lt_zero⟩
    exact Drawing.ends_pure hnil
  | succ steps ih =>
    refine .bind (Drawing.ends_lift (Draw.yields_sample hle)) fun numbers hnumbers => ?_
    have hflows : Drawing.Ends (liftM (shape.flows (.ofNat first) numbers) : Drawing σ (List Flow))
        (· = numbers.map (shape.flowAt first)) shape.NoData := by
      rcases flows_cases first hnumbers.lt with hok | ⟨fault, hfault, herror⟩
      · rw [hok]
        exact Drawing.ends_pure (p := (· = numbers.map (shape.flowAt first))) rfl
      · exact Drawing.ends_error herror hfault
    refine .bind hflows fun flows hflows => ?_
    refine .bind (ih (first + 1)) fun rest hrest => ?_
    subst hflows
    exact Drawing.ends_pure (hrest.cons hnumbers)

/-- A log is one that the shape can draw for a scenario. -/
structure Draws (shape : ScenarioShape) (scenario : ScenarioId) (log : FlowLog) : Prop where
  scenario_eq : log.scenario = scenario
  inBlocks : InBlocks shape shape.timeSteps.toNat 0 log.flows

variable [WordSource σ]

/-- A scenario of a shape that is not refused is drawn, unless its flows would transfer nothing. -/
theorem ends_draw (hcheck : shape.check = .ok ()) (scenario : ScenarioId) :
    Drawing.Ends (shape.draw scenario : Drawing σ FlowLog) (shape.Draws scenario) shape.NoData := by
  rw [draw_of_check hcheck]
  refine .bind (ends_drawSteps (le_pairCount_of_check hcheck) _ 0) fun flows hflows => ?_
  exact Drawing.ends_pure ⟨rfl, hflows⟩

end ScenarioShape

/-! ## Variants -/

/-- An allocation log is a variant of a scenario with a given number of wireless flows. -/
structure FlowLog.IsVariant (log : FlowLog) (id : VariantId) (wirelessCount : Nat)
    (variant : AllocationLog) : Prop where
  id_eq : variant.id = ⟨log.scenario, id⟩
  flows_eq : variant.flows.map AllocatedFlow.flow = log.flows
  wirelessCount_eq : variant.wirelessCount = wirelessCount
  wired : ∀ allocated ∈ variant.flows, allocated.link ≠ .wireless → allocated.link = .wired

variable {flows : List Flow} {chosen : List Nat}

theorem map_flow_allocate (flows : List Flow) (chosen : List Nat) :
    (allocate flows chosen).map AllocatedFlow.flow = flows := by
  rw [allocate, List.map_map]
  exact flows.zipIdx_map_fst 0

/-- The link of a flow is decided by its place. -/
theorem map_link_allocate (flows : List Flow) (chosen : List Nat) :
    (allocate flows chosen).map AllocatedFlow.link =
      (List.range flows.length).map fun i => if i ∈ chosen then .wireless else .wired := by
  rw [allocate, List.map_map, List.range_eq_range', ← List.zipIdx_map_snd 0 flows, List.map_map]
  refine List.map_congr_left fun (flow, i) _ => ?_
  by_cases h : i ∈ chosen <;> simp [h]

/-- Every place that is chosen makes one more flow wireless. -/
theorem countP_allocate {amount : Nat} (h : IsSample flows.length amount chosen) :
    (allocate flows chosen).countP (fun allocated => allocated.link.isWireless) = amount := by
  have hperm : ((List.range flows.length).filter (· ∈ chosen)).Perm chosen := by
    refine (List.perm_ext_iff_of_nodup (List.nodup_range.filter _) h.nodup).mpr fun i => ?_
    simpa using h.lt i
  calc (allocate flows chosen).countP (fun allocated => allocated.link.isWireless)
      = ((allocate flows chosen).map AllocatedFlow.link).countP Link.isWireless := by
        rw [List.countP_map]; rfl
    _ = (List.range flows.length).countP (· ∈ chosen) := by
        rw [map_link_allocate, List.countP_map]
        refine List.countP_congr fun i _ => ?_
        by_cases hi : i ∈ chosen <;> simp [hi, Link.isWireless]
    _ = amount := by rw [List.countP_eq_length_filter, hperm.length_eq, h.length_eq]

theorem link_of_mem_allocate {allocated : AllocatedFlow} (h : allocated ∈ allocate flows chosen)
    (hwireless : allocated.link ≠ .wireless) : allocated.link = .wired := by
  obtain ⟨⟨flow, i⟩, -, rfl⟩ := List.mem_map.mp h
  dsimp only at hwireless ⊢
  split_ifs at hwireless ⊢
  · exact absurd rfl hwireless
  · rfl

/-- Choosing different places makes a variant. -/
theorem FlowLog.isVariant_allocate {log : FlowLog} {amount : Nat}
    (h : IsSample log.flows.length amount chosen) (id : VariantId) :
    log.IsVariant id amount ⟨log.scenario, id, allocate log.flows chosen⟩ where
  id_eq := rfl
  flows_eq := map_flow_allocate log.flows chosen
  wirelessCount_eq := countP_allocate h
  wired _ hmem := link_of_mem_allocate hmem

section

variable [WordSource σ] {log : FlowLog} {wirelessCount : UInt64}

/-- A variant is refused before anything is drawn, or the source decides which flows are wireless.
-/
theorem FlowLog.drawVariant_apply (log : FlowLog) (id : VariantId) (wirelessCount : UInt64)
    (s : σ) :
    log.drawVariant id wirelessCount s =
      if log.flows.length < wirelessCount.toNat then
        some (.error (.refused (.tooMany .flows wirelessCount.toNat log.flows.length)), s)
      else (Draw.sample log.flows.length wirelessCount.toNat s).map fun (chosen, s') =>
        (.ok ⟨log.scenario, id, allocate log.flows chosen⟩, s') := by
  rw [drawVariant, bind_apply, checkVariant, checkSample]
  split_ifs with h
  · rfl
  · show ((liftM (Draw.sample _ _ : Draw σ (List Nat)) : Drawing σ (List Nat)) >>= _) s = _
    rw [bind_apply, Drawing.lift_apply, Option.bind_map]
    cases Draw.sample log.flows.length wirelessCount.toNat s <;> rfl

/-- A variant is drawn if no more flows are to be wireless than there are. -/
theorem FlowLog.succeeds_drawVariant (h : wirelessCount.toNat ≤ log.flows.length) (id : VariantId) :
    Drawing.Succeeds (log.drawVariant id wirelessCount : Drawing σ AllocationLog)
      (log.IsVariant id wirelessCount.toNat) := by
  intro s r s' hend
  rw [ExceptT.run, drawVariant_apply, if_neg (Nat.not_lt.mpr h)] at hend
  obtain ⟨⟨chosen, t⟩, hsample, hend⟩ := Option.map_eq_some_iff.mp hend
  cases hend
  exact ⟨_, rfl, isVariant_allocate (Draw.yields_sample h s chosen _ hsample) id⟩

/-- **Exactly as many flows become wireless as were asked for.** A variant is refused if and only if
more flows are to be wireless than there are, and then nothing is drawn. Otherwise, whenever the
source yields a sample of the places, a variant is drawn: it has the flows of the scenario in their
order, those at the places of the sample are wireless, as many as were asked for, and all others are
wired. -/
theorem FlowLog.drawVariant_exact (log : FlowLog) (id : VariantId) (wirelessCount : UInt64)
    (s : σ) :
    ((∃ fault s', log.drawVariant id wirelessCount s = some (.error fault, s')) ↔
      log.flows.length < wirelessCount.toNat) ∧
    (log.flows.length < wirelessCount.toNat → log.drawVariant id wirelessCount s =
      some (.error (.refused (.tooMany .flows wirelessCount.toNat log.flows.length)), s)) ∧
    ∀ chosen s', wirelessCount.toNat ≤ log.flows.length →
      Draw.sample log.flows.length wirelessCount.toNat s = some (chosen, s') →
        ∃ variant, log.drawVariant id wirelessCount s = some (.ok variant, s') ∧
          log.IsVariant id wirelessCount.toNat variant ∧
          variant.flows.map AllocatedFlow.link =
            (List.range log.flows.length).map fun i =>
              if i ∈ chosen then .wireless else .wired := by
  rw [drawVariant_apply]
  refine ⟨?refused, fun h => if_pos h, fun chosen s' h hsample => ?drawn⟩
  case refused =>
    split_ifs with h
    · exact iff_of_true ⟨_, _, rfl⟩ h
    · refine iff_of_false ?_ h
      rintro ⟨fault, s', hend⟩
      obtain ⟨_, -, hend⟩ := Option.map_eq_some_iff.mp hend
      cases hend
  case drawn =>
    rw [if_neg (Nat.not_lt.mpr h), hsample]
    exact ⟨_, rfl, isVariant_allocate (Draw.yields_sample h s chosen s' hsample) id,
      map_link_allocate log.flows chosen⟩

end

/-- A flow that occurs twice and leads from a rack to itself, and another flow. -/
def repeatedFlows : FlowLog :=
  ⟨⟨3⟩, [⟨7, ⟨4⟩, ⟨4⟩, .other "x", ⟨0⟩, ⟨0⟩⟩, ⟨7, ⟨4⟩, ⟨4⟩, .other "x", ⟨0⟩, ⟨0⟩⟩,
    ⟨1, ⟨0⟩, ⟨9⟩, .tcp, ⟨5⟩, ⟨1⟩⟩]⟩

/-- Two of three flows are made wireless, and four are refused. -/
theorem FlowLog.drawVariant_exact_repeated :
    (∃ s', Draw.sample repeatedFlows.flows.length (2 : UInt64).toNat (⟨0⟩ : SplitMix) =
        some ([2, 0], s') ∧
      ∃ variant, repeatedFlows.drawVariant ⟨8⟩ 2 (⟨0⟩ : SplitMix) = some (.ok variant, s') ∧
        repeatedFlows.IsVariant ⟨8⟩ 2 variant ∧
        variant.flows.map AllocatedFlow.link = [.wireless, .wired, .wireless]) ∧
    repeatedFlows.drawVariant ⟨8⟩ 4 (⟨0⟩ : SplitMix) =
      some (.error (.refused (.tooMany .flows 4 3)), ⟨0⟩) := by
  have hsample : Draw.sample repeatedFlows.flows.length (2 : UInt64).toNat (⟨0⟩ : SplitMix) =
      some ([2, 0], ⟨1663341875487337577⟩) := by
    rw [show repeatedFlows.flows.length = 3 by decide, show (2 : UInt64).toNat = 2 by decide,
      Draw.sample, show Draw.way 3 2 = .onePass by decide]
    cbv
  obtain ⟨-, -, hdrawn⟩ := repeatedFlows.drawVariant_exact ⟨8⟩ 2 (⟨0⟩ : SplitMix)
  obtain ⟨variant, hvariant, his, hlinks⟩ := hdrawn _ _ (by decide) hsample
  refine ⟨⟨_, hsample, variant, hvariant, his, hlinks.trans (by decide)⟩, ?_⟩
  exact (repeatedFlows.drawVariant_exact ⟨8⟩ 4 (⟨0⟩ : SplitMix)).2.1 (by decide)

end RackTraffic
