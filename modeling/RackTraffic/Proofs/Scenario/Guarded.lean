import RackTraffic.Proofs.Scenario.Stored

/-!
# Guarded batches

Some operations of a batch are not defined for all operands: a word is subtracted from another one,
a word is divided by another one, a place of a list is marked, a sample is drawn, a flow is made. A
*guarded* batch is the same batch with a check before each of these operations, and it stops in a
*trap* where the operation is not defined.

**Theorem (`BatchShape.guards_writeGuarded`).** A guarded batch does what the batch does, on every
source and disk. So no operation is ever used where it is not defined, except for making a flow.

The two are compared step by step (`Guards`), together with what is known of the values so far. This
carries what the guards need: a shape that has been checked asks for no more numbers than there are
pairs, the numbers that are drawn are those of pairs, and there is a pair only if there are two
racks.
-/

namespace RackTraffic

open Draw (IsSample)

/-! ## Guards -/

/-- What stops an operation that is not defined for all operands. -/
inductive Trap where
  /-- A difference of words would be negative. -/
  | negative
  /-- A number would be too large for a word. -/
  | overflow
  /-- A word would be divided by zero. -/
  | zeroDivisor
  /-- A list has no such place. -/
  | noPlace
  /-- A sample would be larger than its population. -/
  | largeSample
  /-- A flow may not be made. -/
  | badFlow (fault : FlowFault)
  deriving DecidableEq, Repr

/-- Why a guarded batch is not drawn to its end. -/
inductive Stop where
  | trapped (trap : Trap)
  | failed (fault : BatchFault)
  deriving DecidableEq, Repr

/-- A flow that may not be made is a trap. -/
def Stop.ofBatchFault : BatchFault → Stop
  | .badFlow fault => .trapped (.badFlow fault)
  | fault => .failed fault

def Stop.ofDrawFault (fault : DrawFault) : Stop := .ofBatchFault (.ofDrawFault fault)

/-- Stop in a trap unless the operands of an operation are such that it is defined. -/
def require (defined : Prop) [Decidable defined] (trap : Trap) : Except Trap Unit :=
  if defined then .ok () else .error trap

theorem require_eq_ok {defined : Prop} [Decidable defined] {trap : Trap} (h : defined) :
    require defined trap = .ok () := if_pos h

/-- A computation that draws words and may end in a trap. -/
abbrev GuardedDrawing (σ α : Type) := ExceptT Stop (Draw σ) α

/-- A computation that draws from a source, writes to a disk and may end in a trap. -/
abbrev GuardedBatch (σ α : Type) := ExceptT Stop (StateT (σ × Disk) Option) α

/-- Draw from the source. -/
def GuardedBatch.draw {σ α : Type} (act : GuardedDrawing σ α) : GuardedBatch σ α := fun (s, d) =>
  (act s).map fun (r, s) => (r, (s, d))

/-- Act on the disk. -/
def GuardedBatch.onDisk {σ ε α : Type} (fault : ε → BatchFault) (act : DiskAction ε α) :
    GuardedBatch σ α :=
  ExceptT.adapt .ofBatchFault (Batch.onDisk fault act)

/-! ## Guarded drawings -/

/-- The pair of racks with a given number. -/
def nthPairGuarded (rackCount number : UInt64) : Except Trap (Rack × Rack) := do
  require (1 ≤ rackCount) .negative
  let others := rackCount - 1
  require (others ≠ 0) .zeroDivisor
  let source := number / others
  let rest := number % others
  if source ≤ rest then
    require (rest.toNat + 1 < UInt64.size) .overflow
    return (⟨source⟩, ⟨rest + 1⟩)
  else
    return (⟨source⟩, ⟨rest⟩)

/-- The flow between the pair with a given number. -/
def ScenarioShape.flowGuarded (shape : ScenarioShape) (timeStep : UInt64) (number : Nat) :
    Except Trap Flow := do
  require (number < UInt64.size) .overflow
  let (source, destination) ← nthPairGuarded shape.rackCount (UInt64.ofNat number)
  (Flow.tcp timeStep source destination shape.transferSize shape.dataRate).mapError .badFlow

/-- Mark the places of a list one after the other. -/
def markPlaces : (places : List Nat) → List Bool → Except Trap (List Bool)
  | [], marks => return marks
  | i :: places, marks => do
    require (i < marks.length) .noPlace
    markPlaces places (marks.set i true)

/-- Give the flows whose places were chosen a wireless link and the others a wired one. -/
def allocateGuarded (flows : List Flow) (chosen : List Nat) : Except Trap (List AllocatedFlow) := do
  let marks ← markPlaces chosen (.replicate flows.length false)
  return flows.zipWith (fun flow marked => ⟨flow, if marked then .wireless else .wired⟩) marks

section

variable {σ : Type} [WordSource σ]

/-- Draw `amount` different numbers below `population`. -/
def Draw.sampleGuarded (population amount : Nat) : GuardedDrawing σ (List Nat) := do
  ((require (amount ≤ population) .largeSample).mapError .trapped : Except Stop Unit)
  (Draw.sample population amount : Draw σ (List Nat))

/-- Draw the flows of `steps` time steps, the first of which is `timeStep`. -/
def ScenarioShape.drawStepsGuarded (shape : ScenarioShape) :
    (steps timeStep : Nat) → GuardedDrawing σ (List Flow)
  | 0, _ => pure []
  | steps + 1, timeStep => do
    let numbers ← Draw.sampleGuarded shape.pairCount shape.flowsPerStep.toNat
    let flows ← ((numbers.mapM (shape.flowGuarded (UInt64.ofNat timeStep))).mapError .trapped :
      Except Stop (List Flow))
    return flows ++ (← drawStepsGuarded shape steps (timeStep + 1))

/-- Draw a scenario. -/
def ScenarioShape.drawGuarded (shape : ScenarioShape) (scenario : ScenarioId) :
    GuardedDrawing σ FlowLog := do
  (shape.check.mapError (.failed <| .refused ·) : Except Stop Unit)
  let flows ← shape.drawStepsGuarded shape.timeSteps.toNat 0
  return { scenario, flows }

/-- Draw a variant of a scenario. -/
def FlowLog.drawVariantGuarded (log : FlowLog) (variant : VariantId) (wirelessCount : UInt64) :
    GuardedDrawing σ AllocationLog := do
  ((checkSample .flows wirelessCount.toNat log.flows.length).mapError (.failed <| .refused ·) :
    Except Stop Unit)
  let chosen ← Draw.sampleGuarded log.flows.length wirelessCount.toNat
  let flows ← ((allocateGuarded log.flows chosen).mapError .trapped :
    Except Stop (List AllocatedFlow))
  return { scenario := log.scenario, variant, flows }

/-! ## Guarded batches -/

/-- Draw and write `count` variants of a scenario, of which `first` is the first. -/
def FlowLog.writeVariantsGuarded (log : FlowLog) (directory : Path) (wirelessCount : UInt64) :
    (count first : Nat) → GuardedBatch σ Unit
  | 0, _ => pure ()
  | count + 1, first => do
    let variant ← GuardedBatch.draw (log.drawVariantGuarded ⟨UInt64.ofNat first⟩ wirelessCount)
    let _ ← GuardedBatch.onDisk .io (variant.store directory)
    writeVariantsGuarded log directory wirelessCount count (first + 1)

/-- Draw and write a scenario and its variants, and return how many flows it has. -/
def BatchShape.writeScenarioGuarded (shape : BatchShape) (directory : Path) (number : Nat) :
    GuardedBatch σ Nat := do
  let log ← GuardedBatch.draw (shape.scenario.drawGuarded ⟨UInt64.ofNat number⟩)
  let _ ← GuardedBatch.onDisk .io (log.store directory)
  log.writeVariantsGuarded directory shape.wirelessCount shape.variantsPerScenario.toNat 0
  return log.flows.length

/-- Draw and write `count` scenarios, of which `first` is the first. -/
def BatchShape.writeScenariosGuarded (shape : BatchShape) (directory : Path) :
    (count first : Nat) → BatchSummary → GuardedBatch σ BatchSummary
  | 0, _, summary => pure summary
  | count + 1, first, summary => do
    let flows ← shape.writeScenarioGuarded directory first
    writeScenariosGuarded shape directory count (first + 1) {
      flowLogs := summary.flowLogs + 1
      allocationLogs := summary.allocationLogs + shape.variantsPerScenario.toNat
      flows := summary.flows + flows }

/-- Draw a batch and write it into a directory. -/
def BatchShape.writeGuarded (shape : BatchShape) (directory : Path) (allowExisting : Bool) :
    GuardedBatch σ BatchSummary := do
  (shape.check.mapError (.failed <| .refused ·) : Except Stop Unit)
  GuardedBatch.onDisk .output (Disk.prepareOutput directory allowExisting)
  shape.writeScenariosGuarded directory shape.scenarioCount.toNat 0 {}

end

/-! ## Comparing -/

theorem adapt_apply {ε τ α : Type} (stop : ε → Stop) (act : ExceptT ε (StateT τ Option) α) (w : τ) :
    ExceptT.adapt stop act w = (act w).map fun (r, w') => (r.mapError stop, w') := by
  simp only [ExceptT.adapt, ExceptT.mk, Functor.map, StateT.map, Option.map_eq_bind]
  rfl

/-- A guarded computation does what a computation does, up to how its faults are told, and what they
yield satisfies `p`. -/
structure Guards {ε τ α : Type} (stop : ε → Stop) (guarded : ExceptT Stop (StateT τ Option) α)
    (act : ExceptT ε (StateT τ Option) α) (p : α → Prop) : Prop where
  eq : guarded = ExceptT.adapt stop act
  yields : ∀ w a w', act w = some (.ok a, w') → p a

namespace Guards

variable {ε τ α β : Type} {stop : ε → Stop} {p : α → Prop}

theorem pure {a : α} (h : p a) : Guards (τ := τ) stop (Pure.pure a) (Pure.pure a) p := by
  refine ⟨rfl, fun w b w' hend => ?_⟩
  cases hend
  exact h

/-- Steps are compared one by one, the later ones for the values that the earlier ones yield. -/
theorem bind {guarded : ExceptT Stop (StateT τ Option) α} {act : ExceptT ε (StateT τ Option) α}
    {next' : α → ExceptT Stop (StateT τ Option) β} {next : α → ExceptT ε (StateT τ Option) β}
    {q : β → Prop} (h : Guards stop guarded act p)
    (hnext : ∀ a, p a → Guards stop (next' a) (next a) q) :
    Guards stop (guarded >>= next') (act >>= next) q := by
  refine ⟨funext fun w => ?_, fun w b w' hend => ?_⟩
  · rw [h.eq, adapt_apply, bind_apply, bind_apply, adapt_apply]
    rcases hact : act w with _ | ⟨r, w'⟩
    · rfl
    · cases r with
      | ok a => exact congrFun (hnext a (h.yields w a w' hact)).eq w' |>.trans (adapt_apply _ _ _)
      | error fault => rfl
  · rw [bind_apply] at hend
    obtain ⟨⟨r, w₁⟩, hact, hend⟩ := Option.bind_eq_some_iff.mp hend
    cases r with
    | ok a => exact (hnext a (h.yields w a w₁ hact)).yields w₁ b w' hend
    | error fault => cases hend

/-- A result that is known. -/
theorem except {guarded : Except Stop α} {e : Except ε α} (h : guarded = e.mapError stop) :
    Guards (τ := τ) stop (liftM guarded) (liftM e) fun a => e = .ok a := by
  subst h
  cases e with
  | ok a => exact pure rfl
  | error fault => exact ⟨rfl, fun w a w' hend => by cases hend⟩

theorem lift {act : StateT τ Option α} (h : ∀ w a w', act w = some (a, w') → p a) :
    Guards (τ := τ) stop (liftM act) (liftM act) p := by
  have hlift {γ : Type} (w : τ) : (liftM act : ExceptT γ (StateT τ Option) α) w =
      (act w).map fun r => (.ok r.1, r.2) := by
    rw [Option.map_eq_bind]
    rfl
  refine ⟨funext fun w => ?_, fun w a w' hend => ?_⟩
  · rw [adapt_apply, hlift, hlift, Option.map_map]
    rfl
  · rw [hlift] at hend
    obtain ⟨⟨b, w₁⟩, hact, hend⟩ := Option.map_eq_some_iff.mp hend
    cases hend
    exact h w b w₁ hact

end Guards

/-! ## Drawings -/

theorem nthPairGuarded_eq {rackCount : UInt64} (htwo : 2 ≤ rackCount.toNat) (number : UInt64) :
    nthPairGuarded rackCount number = .ok (nthPair rackCount number) := by
  have hone : 1 ≤ rackCount := UInt64.le_iff_toNat_le.mpr (Nat.le_trans (by decide) htwo)
  have hothers : (rackCount - 1).toNat = rackCount.toNat - 1 := UInt64.toNat_sub_of_le _ 1 hone
  have hpos : rackCount - 1 ≠ 0 := by
    intro hzero
    rw [hzero, UInt64.toNat_zero] at hothers
    omega
  have hrest : (number % (rackCount - 1)).toNat + 1 < UInt64.size := by
    have hlt : (number % (rackCount - 1)).toNat < rackCount.toNat - 1 := by
      rw [UInt64.toNat_mod, hothers]
      exact Nat.mod_lt _ (by omega)
    have hsize : rackCount.toNat < UInt64.size := rackCount.toNat_lt
    omega
  simp only [nthPairGuarded, nthPair, require_eq_ok hone, require_eq_ok hpos, require_eq_ok hrest,
    bind, Except.bind]
  split_ifs <;> rfl

namespace ScenarioShape

variable {shape : ScenarioShape}

theorem flowGuarded_eq (timeStep : UInt64) {number : Nat} (h : number < shape.pairCount) :
    shape.flowGuarded timeStep number = (shape.flow timeStep number).mapError .badFlow := by
  obtain ⟨hword, hrange⟩ := bounds_of_lt_pairCount h
  rw [flowGuarded, require_eq_ok hword, nthPairGuarded_eq (two_le_of_lt_mul_pred hrange)]
  rfl

/-- Where numbers are those of pairs, flows are made as they are without guards. -/
theorem mapM_flowGuarded (timeStep : UInt64) {numbers : List Nat}
    (h : ∀ number ∈ numbers, number < shape.pairCount) :
    (numbers.mapM (shape.flowGuarded timeStep)).mapError Stop.trapped =
      (shape.flows timeStep numbers).mapError Stop.ofDrawFault := by
  have hmap : numbers.mapM (shape.flowGuarded timeStep) =
      (numbers.mapM (shape.flow timeStep)).mapError .badFlow := by
    induction numbers with
    | nil => rfl
    | cons number rest ih =>
      obtain ⟨hnumber, hrest⟩ := List.forall_mem_cons.mp h
      rw [List.mapM_cons, List.mapM_cons, flowGuarded_eq timeStep hnumber, ih hrest]
      cases shape.flow timeStep number with
      | error fault => rfl
      | ok flow => cases rest.mapM (shape.flow timeStep) <;> rfl
  rw [flows, hmap]
  cases numbers.mapM (shape.flow timeStep) <;> rfl

end ScenarioShape

/-- Each place is marked that was marked before or is one of the places. -/
theorem markPlaces_eq {places : List Nat} {marks : List Bool} (h : ∀ i ∈ places, i < marks.length) :
    markPlaces places marks =
      .ok (marks.zipIdx.map fun (marked, i) => marked || decide (i ∈ places)) := by
  induction places generalizing marks with
  | nil => simp [markPlaces, pure, Except.pure]
  | cons i places ih =>
    obtain ⟨hi, hplaces⟩ := List.forall_mem_cons.mp h
    rw [markPlaces, require_eq_ok hi]
    refine (ih (by simpa using hplaces)).trans (congrArg _ (List.ext_getElem (by simp) ?_))
    intro j hj hj'
    by_cases hij : i = j <;> simp [hij, @eq_comm _ j i]

theorem allocateGuarded_eq {flows : List Flow} {chosen : List Nat}
    (h : ∀ i ∈ chosen, i < flows.length) :
    allocateGuarded flows chosen = .ok (allocate flows chosen) := by
  rw [allocateGuarded, markPlaces_eq (by simpa using h)]
  refine congrArg _ (List.ext_getElem (by simp [allocate]) fun i hi hi' => ?_)
  simp [allocate]

section

variable {σ : Type} [WordSource σ]

theorem Draw.guards_sampleGuarded {population amount : Nat} (h : amount ≤ population) :
    Guards .ofDrawFault (Draw.sampleGuarded population amount : GuardedDrawing σ (List Nat))
      (liftM (Draw.sample population amount : Draw σ (List Nat))) (IsSample population amount) := by
  have heq : (Draw.sampleGuarded population amount : GuardedDrawing σ (List Nat)) =
      liftM (Draw.sample population amount : Draw σ (List Nat)) := by
    rw [sampleGuarded, require_eq_ok h]
    exact pure_bind () _
  rw [heq]
  exact .lift (Draw.yields_sample h)

namespace ScenarioShape

variable {shape : ScenarioShape}

theorem guards_drawStepsGuarded (hle : shape.flowsPerStep.toNat ≤ shape.pairCount)
    (steps timeStep : Nat) :
    Guards .ofDrawFault (shape.drawStepsGuarded steps timeStep : GuardedDrawing σ (List Flow))
      (shape.drawSteps steps timeStep) fun _ => True := by
  induction steps generalizing timeStep with
  | zero => exact .pure trivial
  | succ steps ih =>
    refine .bind (Draw.guards_sampleGuarded hle) fun numbers hnumbers => ?_
    refine .bind (.except (mapM_flowGuarded _ hnumbers.lt)) fun flows _ => ?_
    exact .bind (ih (timeStep + 1)) fun rest _ => .pure trivial

/-- A guarded drawing of a scenario does what the drawing does. -/
theorem guards_drawGuarded (shape : ScenarioShape) (scenario : ScenarioId) :
    Guards .ofDrawFault (shape.drawGuarded scenario : GuardedDrawing σ FlowLog)
      (shape.draw scenario) fun _ => True := by
  refine .bind (.except (by cases shape.check <;> rfl)) fun u hcheck => ?_
  have hle : shape.flowsPerStep.toNat ≤ shape.pairCount := by
    cases h : shape.check with
    | ok u => exact le_pairCount_of_check h
    | error fault =>
      rw [h] at hcheck
      cases hcheck
  exact .bind (guards_drawStepsGuarded hle _ 0) fun flows _ => .pure trivial

end ScenarioShape

namespace FlowLog

/-- A guarded drawing of a variant, too. -/
theorem guards_drawVariantGuarded (log : FlowLog) (variant : VariantId) (wirelessCount : UInt64) :
    Guards .ofDrawFault
      (log.drawVariantGuarded variant wirelessCount : GuardedDrawing σ AllocationLog)
      (log.drawVariant variant wirelessCount) fun _ => True := by
  have hcheck : (checkSample .flows wirelessCount.toNat log.flows.length).mapError
      (Stop.failed <| .refused ·) = (log.checkVariant wirelessCount).mapError Stop.ofDrawFault := by
    rw [checkVariant]
    cases checkSample .flows wirelessCount.toNat log.flows.length <;> rfl
  refine .bind (.except hcheck) fun u hok => ?_
  have hle : wirelessCount.toNat ≤ log.flows.length := by
    by_contra hlt
    simp [checkVariant, checkSample, Nat.lt_of_not_le hlt, Except.mapError] at hok
  refine .bind (Draw.guards_sampleGuarded hle) fun chosen hchosen => ?_
  rw [allocateGuarded_eq hchosen.lt]
  exact .pure trivial

end FlowLog

/-! ## Batches -/

omit [WordSource σ] in
theorem GuardedBatch.guards_draw {α : Type} {guarded : GuardedDrawing σ α} {act : Drawing σ α}
    {p : α → Prop} (h : Guards .ofDrawFault guarded act p) :
    Guards .ofBatchFault (GuardedBatch.draw guarded) (Batch.draw act) p := by
  constructor
  · funext w
    obtain ⟨s, d⟩ := w
    rw [h.eq, adapt_apply, GuardedBatch.draw, Batch.draw, adapt_apply, Option.map_map,
      Option.map_map]
    congr 1
    funext w
    obtain ⟨r, s'⟩ := w
    cases r <;> rfl
  · intro w a w' hend
    obtain ⟨s, d⟩ := w
    obtain ⟨⟨r, s'⟩, hact, hend⟩ := Option.map_eq_some_iff.mp hend
    cases r with
    | ok b =>
      cases hend
      exact h.yields s a s' hact
    | error fault => cases hend

omit [WordSource σ] in
theorem GuardedBatch.guards_onDisk {ε α : Type} (fault : ε → BatchFault) (act : DiskAction ε α) :
    Guards .ofBatchFault (GuardedBatch.onDisk fault act : GuardedBatch σ α) (Batch.onDisk fault act)
      fun _ => True :=
  ⟨rfl, fun _ _ _ _ => trivial⟩

theorem FlowLog.guards_writeVariantsGuarded (log : FlowLog) (directory : Path)
    (wirelessCount : UInt64) (count first : Nat) :
    Guards .ofBatchFault
      (log.writeVariantsGuarded directory wirelessCount count first : GuardedBatch σ Unit)
      (log.writeVariants directory wirelessCount count first) fun _ => True := by
  induction count generalizing first with
  | zero => exact .pure trivial
  | succ count ih =>
    refine .bind (GuardedBatch.guards_draw (log.guards_drawVariantGuarded _ _)) fun variant _ => ?_
    exact .bind (GuardedBatch.guards_onDisk _ _) fun _ _ => ih (first + 1)

namespace BatchShape

variable (shape : BatchShape) (directory : Path)

theorem guards_writeScenarioGuarded (number : Nat) :
    Guards .ofBatchFault (shape.writeScenarioGuarded directory number : GuardedBatch σ Nat)
      (shape.writeScenario directory number) fun _ => True := by
  refine .bind (GuardedBatch.guards_draw (shape.scenario.guards_drawGuarded _)) fun log _ => ?_
  refine .bind (GuardedBatch.guards_onDisk _ _) fun _ _ => ?_
  exact .bind (log.guards_writeVariantsGuarded directory _ _ 0) fun _ _ => .pure trivial

theorem guards_writeScenariosGuarded (count first : Nat) (summary : BatchSummary) :
    Guards .ofBatchFault
      (shape.writeScenariosGuarded directory count first summary : GuardedBatch σ BatchSummary)
      (shape.writeScenarios directory count first summary) fun _ => True := by
  induction count generalizing first summary with
  | zero => exact .pure trivial
  | succ count ih =>
    exact .bind (shape.guards_writeScenarioGuarded directory first) fun flows _ => ih _ _

/-- A guarded batch does what the batch does. -/
theorem guards_writeGuarded (allow : Bool) :
    Guards .ofBatchFault (shape.writeGuarded directory allow : GuardedBatch σ BatchSummary)
      (shape.write directory allow) fun _ => True := by
  refine .bind (.except (by cases shape.check <;> rfl)) fun _ _ => ?_
  exact .bind (GuardedBatch.guards_onDisk _ _) fun _ _ =>
    shape.guards_writeScenariosGuarded directory _ 0 {}

end BatchShape

end

end RackTraffic
