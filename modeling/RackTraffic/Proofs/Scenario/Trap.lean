import RackTraffic.Proofs.Scenario.Guarded

/-!
# Where a batch comes to a flow that may not be made

The checks of a batch leave one thing open: a shape may say that its flows transfer nothing. A batch
of such a shape comes to a flow that may not be made as soon as it has a flow to make
(`BatchShape.MeetsNoData`), and by then it has made its output directory.

**Theorem (`BatchShape.writeGuarded_ends`).** A guarded batch does what the batch does. It ends in a
trap if and only if it meets a flow without data.
-/

namespace RackTraffic

variable {σ : Type} [WordSource σ]

/-! ## Scenarios -/

namespace ScenarioShape

variable {shape : ScenarioShape}

/-- Without flows nothing goes wrong, whatever they would transfer. -/
theorem succeeds_drawSteps_of_eq_zero (hle : shape.flowsPerStep.toNat ≤ shape.pairCount)
    {steps : Nat} (hnone : steps * shape.flowsPerStep.toNat = 0) (first : Nat) :
    Drawing.Succeeds (shape.drawSteps steps first : Drawing σ (List Flow)) fun _ => True := by
  induction steps generalizing first with
  | zero => exact Drawing.succeeds_pure trivial
  | succ steps ih =>
    have hzero : shape.flowsPerStep.toNat = 0 := by simpa using hnone
    refine .bind (Drawing.succeeds_lift (Draw.yields_sample hle)) fun numbers hnumbers => ?_
    obtain rfl : numbers = [] := List.length_eq_zero_iff.mp (hnumbers.length_eq.trans hzero)
    refine .bind (p := fun _ => True) (Drawing.succeeds_ok (a := []) rfl trivial) fun _ _ => ?_
    exact .bind (ih (by simp [hzero]) (first + 1)) fun _ _ => Drawing.succeeds_pure trivial

/-- A scenario of a shape that is not refused is drawn, unless it has flows and they would transfer
nothing. -/
theorem ends_draw_of_flows (hcheck : shape.check = .ok ()) (scenario : ScenarioId) :
    Drawing.Ends (shape.draw scenario : Drawing σ FlowLog) (shape.Draws scenario)
      fun fault => shape.NoData fault ∧ 0 < shape.flowTotal := by
  intro s r s' hend
  have hdrawn := ends_draw hcheck scenario s r s' hend
  cases r with
  | ok log => exact hdrawn
  | error fault =>
    refine ⟨hdrawn, Nat.pos_of_ne_zero fun hnone => ?_⟩
    have hsucceeds : Drawing.Succeeds (shape.draw scenario : Drawing σ FlowLog) fun _ => True := by
      rw [draw_of_check hcheck]
      exact .bind (succeeds_drawSteps_of_eq_zero (le_pairCount_of_check hcheck) hnone 0)
        fun _ _ => Drawing.succeeds_pure trivial
    obtain ⟨log, hlog, -⟩ := hsucceeds s _ s' hend
    cases hlog

/-- Flows that would transfer nothing are met as soon as there are flows. -/
theorem ends_draw_noData (hcheck : shape.check = .ok ()) (hsize : shape.transferSize.count = 0)
    (hpos : 0 < shape.flowTotal) (scenario : ScenarioId) :
    Drawing.Ends (shape.draw scenario : Drawing σ FlowLog) (fun _ => False) shape.NoData := by
  have hle := le_pairCount_of_check hcheck
  obtain ⟨steps, hsteps⟩ := Nat.exists_eq_succ_of_ne_zero (Nat.pos_of_mul_pos_right hpos).ne'
  have hflows : 0 < shape.flowsPerStep.toNat := Nat.pos_of_mul_pos_left hpos
  have hdraw : Drawing.Ends (shape.drawSteps shape.timeSteps.toNat 0 : Drawing σ (List Flow))
      (fun _ => False) shape.NoData := by
    rw [hsteps]
    refine .bind (Drawing.ends_lift (Draw.yields_sample hle)) fun numbers hnumbers => ?_
    have hne : numbers ≠ [] := List.ne_nil_of_length_pos (hnumbers.length_eq ▸ hflows)
    obtain ⟨fault, hfault, herror⟩ := flows_eq_error hsize 0 hne hnumbers.lt
    exact .bind (Drawing.ends_error herror hfault) fun _ hnone => False.elim hnone
  rw [draw_of_check hcheck]
  exact .bind hdraw fun _ hnone => False.elim hnone

end ScenarioShape

/-! ## Batches -/

namespace BatchShape

/-- A batch comes to a flow that would transfer nothing: it is not refused, its output directory can
be used, and it has flows. -/
structure MeetsNoData (shape : BatchShape) (directory : Path) (allow : Bool) (d : Disk) : Prop where
  accepted : ∀ fault, ¬ shape.Exceeds fault
  prepared : (Disk.prepareOutput directory allow d).1 = .ok ()
  scenarios : 0 < shape.scenarioCount.toNat
  flows : 0 < shape.scenario.timeSteps.toNat * shape.scenario.flowsPerStep.toNat
  size : shape.scenario.transferSize.count = 0

variable {shape : BatchShape} {directory : Path} {allow : Bool} {s s' : σ} {d d₁ e : Disk}
  {r : Except BatchFault BatchSummary}

theorem write_of_prepareOutput (hcheck : shape.check = .ok ())
    (h : Disk.prepareOutput directory allow d = (.ok (), d₁)) (s : σ) :
    shape.write directory allow (s, d) =
      shape.writeScenarios directory shape.scenarioCount.toNat 0 {} (s, d₁) := by
  rw [write_apply, hcheck]
  dsimp only
  rw [bind_apply, Batch.onDisk, h]
  rfl

/-- The first scenario is drawn before anything is written. -/
theorem writeScenarios_noData (hcheck : shape.check = .ok ())
    (hsize : shape.scenario.transferSize.count = 0) (hpos : 0 < shape.scenario.flowTotal)
    {count first : Nat} {summary : BatchSummary}
    (h : shape.writeScenarios directory (count + 1) first summary (s, d) = some (r, (s', e))) :
    (∃ source destination, r = .error (.badFlow (.noData source destination))) ∧ e = d := by
  rw [writeScenarios, bind_apply, writeScenario, bind_apply, Batch.draw] at h
  cases hdraw : (shape.scenario.draw ⟨.ofNat first⟩ : Drawing σ FlowLog) s with
  | none => simp [hdraw] at h
  | some w =>
    obtain ⟨r₁, s₁⟩ := w
    have hend := ScenarioShape.ends_draw_noData (scenario_check_of_check hcheck) hsize hpos
      _ s r₁ s₁ hdraw
    cases r₁ with
    | ok log => exact False.elim hend
    | error fault =>
      obtain ⟨-, source, destination, rfl⟩ := hend
      rw [hdraw] at h
      cases h
      exact ⟨⟨source, destination, rfl⟩, rfl⟩

/-- A batch that meets a flow without data has prepared its output directory and written nothing. -/
theorem MeetsNoData.ends (hmeets : shape.MeetsNoData directory allow d)
    (h : shape.write directory allow (s, d) = some (r, (s', e))) :
    (∃ source destination, r = .error (.badFlow (.noData source destination))) ∧
      e = (Disk.prepareOutput directory allow d).2 := by
  have hcheck : shape.check = .ok () := check_eq_ok.mpr hmeets.accepted
  have hprepared : Disk.prepareOutput directory allow d =
      (.ok (), (Disk.prepareOutput directory allow d).2) := Prod.ext hmeets.prepared rfl
  obtain ⟨count, hcount⟩ := Nat.exists_eq_succ_of_ne_zero hmeets.scenarios.ne'
  rw [write_of_prepareOutput hcheck hprepared, hcount] at h
  exact writeScenarios_noData hcheck hmeets.size hmeets.flows h

/-- If a fault tells of a flow that may not be made, then there are flows and they would transfer
nothing. -/
def BlamesNoData (shape : BatchShape) (fault : BatchFault) : Prop :=
  ∀ flaw, fault = .badFlow flaw →
    0 < shape.scenario.flowTotal ∧ shape.scenario.transferSize.count = 0

theorem ends_draw_blamesNoData (hcheck : shape.check = .ok ()) (scenario : ScenarioId) :
    Drawing.Ends (shape.scenario.draw scenario : Drawing σ FlowLog) (shape.scenario.Draws scenario)
      fun fault => shape.BlamesNoData (.ofDrawFault fault) :=
  (ScenarioShape.ends_draw_of_flows (scenario_check_of_check hcheck) scenario).mono
    fun _ hfault _ _ => ⟨hfault.2, hfault.1.1⟩

/-- Only flows without data stop a batch that has passed its checks, and only if there are flows. -/
theorem flows_of_writeScenarios_badFlow (hcheck : shape.check = .ok ()) {count first : Nat}
    {summary : BatchSummary} {fault : FlowFault}
    (h : shape.writeScenarios directory count first summary (s, d) =
      some (.error (.badFlow fault), (s', e))) :
    0 < count ∧ 0 < shape.scenario.flowTotal ∧ shape.scenario.transferSize.count = 0 := by
  have hio (error : IoError) : shape.BlamesNoData (.io error) := fun flaw hflaw => by cases hflaw
  have hend := ends_writeScenarios hio (ends_draw_blamesNoData hcheck) hcheck count first summary d
    s _ s' e h
  refine ⟨Nat.pos_of_ne_zero fun hnone => ?_, hend fault rfl⟩
  subst hnone
  cases h

/-- A batch ends in a flow that may not be made if and only if it meets a flow without data. -/
theorem write_badFlow_iff (h : shape.write directory allow (s, d) = some (r, (s', e))) :
    (∃ fault, r = .error (.badFlow fault)) ↔ shape.MeetsNoData directory allow d := by
  constructor
  · rintro ⟨fault, rfl⟩
    have hcheck : shape.check = .ok () := by
      rw [write_apply] at h
      cases hcheck : shape.check with
      | ok u => rfl
      | error refusal =>
        rw [hcheck] at h
        cases h
    rcases hprepared : Disk.prepareOutput directory allow d with ⟨reason | u, d₁⟩
    · rw [write_of_prepareOutput_error hcheck hprepared] at h
      cases h
    · rw [write_of_prepareOutput hcheck hprepared] at h
      obtain ⟨hscenarios, hflows, hsize⟩ := flows_of_writeScenarios_badFlow hcheck h
      exact ⟨check_eq_ok.mp hcheck, by rw [hprepared], hscenarios, hflows, hsize⟩
  · intro hmeets
    obtain ⟨⟨source, destination, hr⟩, -⟩ := hmeets.ends h
    exact ⟨_, hr⟩

/-! ## Guarded batches -/

theorem writeGuarded_apply (shape : BatchShape) (directory : Path) (allow : Bool) (w : σ × Disk) :
    shape.writeGuarded directory allow w =
      (shape.write directory allow w).map fun (r, w') => (r.mapError .ofBatchFault, w') := by
  rw [(shape.guards_writeGuarded directory allow).eq, adapt_apply]

/-- **A guarded batch does what the batch does**, so wherever one of its operations is not defined
for all operands, it is defined for those it has. The one exception is a flow without data: a batch
ends in a trap if and only if it meets one, and then it has made its output directory. Any other
shape that asks for too much is refused, and then the source and the disk are as before. -/
theorem writeGuarded_ends (shape : BatchShape) (directory : Path) (allow : Bool) :
    (shape.writeGuarded directory allow : GuardedBatch σ BatchSummary) =
        ExceptT.adapt .ofBatchFault (shape.write directory allow) ∧
      ∀ (s : σ) (d : Disk),
        (∀ fault, shape.Exceeds fault → shape.writeGuarded directory allow (s, d) =
          some (.error (.failed (.refused fault)), (s, d))) ∧
        ∀ r s' e, shape.writeGuarded directory allow (s, d) = some (r, (s', e)) →
          ((∃ trap, r = .error (.trapped trap)) ↔ shape.MeetsNoData directory allow d) ∧
          (shape.MeetsNoData directory allow d →
            (∃ source destination, r = .error (.trapped (.badFlow (.noData source destination)))) ∧
              e = (Disk.prepareOutput directory allow d).2) := by
  refine ⟨(shape.guards_writeGuarded directory allow).eq, fun s d =>
    ⟨fun fault hexceeds => ?refused, fun r s' e hend => ?trapped⟩⟩
  case refused =>
    rw [writeGuarded_apply, write_apply, check_eq_error.mpr hexceeds]
    rfl
  case trapped =>
    rw [writeGuarded_apply] at hend
    obtain ⟨⟨r, w⟩, hwrite, hend⟩ := Option.map_eq_some_iff.mp hend
    cases hend
    refine ⟨?_, fun hmeets => ?_⟩
    · rw [← write_badFlow_iff hwrite]
      cases r with
      | ok summary => simp [Except.mapError]
      | error fault => cases fault <;> simp [Except.mapError, Stop.ofBatchFault]
    · obtain ⟨⟨source, destination, rfl⟩, rfl⟩ := hmeets.ends hwrite
      exact ⟨⟨source, destination, rfl⟩, rfl⟩

/-- A batch of one flow that would transfer nothing. -/
def nothingToSend : BatchShape :=
  { twoRacks with scenario := { twoRacks.scenario with transferSize := ⟨0⟩ } }

theorem writeGuarded_of_nothingToSend :
    nothingToSend.writeGuarded ⟨"o"⟩ false ((⟨0⟩ : SplitMix), blankDisk) =
      some (.error (.trapped (.badFlow (.noData ⟨0⟩ ⟨1⟩))),
        (⟨15755400384260043839⟩, preparedDisk ⟨"o"⟩)) := by
  have hdraw : nothingToSend.scenario.draw ⟨.ofNat 0⟩ (⟨0⟩ : SplitMix) =
      some (.error (.badFlow (.noData ⟨0⟩ ⟨1⟩)), ⟨15755400384260043839⟩) := by
    have hsample : (Draw.sample nothingToSend.scenario.pairCount
        nothingToSend.scenario.flowsPerStep.toNat : Draw SplitMix (List Nat)) =
          Draw.sampleOnePass 2 1 := by
      rw [show nothingToSend.scenario.pairCount = 2 by decide,
        show nothingToSend.scenario.flowsPerStep.toNat = 1 by decide, Draw.sample,
        show Draw.way 2 1 = .onePass by decide]
    rw [ScenarioShape.draw, show nothingToSend.scenario.timeSteps.toNat = 1 by decide]
    simp only [ScenarioShape.drawSteps, hsample]
    cbv
  have hprepared : Disk.prepareOutput ⟨"o"⟩ false blankDisk = (.ok (), preparedDisk ⟨"o"⟩) :=
    Prod.ext (by decide +kernel) rfl
  rw [writeGuarded_apply, write_of_prepareOutput (by decide) hprepared,
    show nothingToSend.scenarioCount.toNat = 1 by decide, writeScenarios, bind_apply, writeScenario,
    bind_apply, Batch.draw, hdraw]
  rfl

/-- The directory is there after the trap, and it was not there before. -/
theorem writeGuarded_nothingToSend : ∃ s' e,
    nothingToSend.writeGuarded ⟨"o"⟩ false ((⟨0⟩ : SplitMix), blankDisk) =
        some (.error (.trapped (.badFlow (.noData ⟨0⟩ ⟨1⟩))), (s', e)) ∧
      blankDisk.contains ⟨"o"⟩ = false ∧ e.isDirectory ⟨"o"⟩ = true :=
  ⟨_, _, writeGuarded_of_nothingToSend, by decide +kernel, by decide +kernel⟩

/-- A batch with three flows at a time step, which are more than there are pairs of two racks. -/
def tooDense : BatchShape :=
  { twoRacks with scenario := { twoRacks.scenario with flowsPerStep := 3 } }

theorem writeGuarded_ends_twoRacks :
    tooDense.writeGuarded ⟨"o"⟩ false ((⟨0⟩ : SplitMix), blankDisk) =
        some (.error (.failed (.refused (.tooMany .pairs 3 2))), (⟨0⟩, blankDisk)) ∧
      nothingToSend.MeetsNoData ⟨"o"⟩ false blankDisk ∧
      ∃ r s' e, nothingToSend.writeGuarded ⟨"o"⟩ false ((⟨0⟩ : SplitMix), blankDisk) =
          some (r, (s', e)) ∧
        (∃ source destination, r = .error (.trapped (.badFlow (.noData source destination)))) ∧
          e = preparedDisk ⟨"o"⟩ := by
  have hexceeds : tooDense.Exceeds (.tooMany .pairs 3 2) := check_eq_error.mp (by decide)
  have hmeets : nothingToSend.MeetsNoData ⟨"o"⟩ false blankDisk :=
    ⟨check_eq_ok.mp (by decide), by decide +kernel, by decide, by decide, by decide⟩
  have hrefused :=
    ((writeGuarded_ends tooDense ⟨"o"⟩ false).2 (⟨0⟩ : SplitMix) blankDisk).1 _ hexceeds
  have hends := ((writeGuarded_ends nothingToSend ⟨"o"⟩ false).2 (⟨0⟩ : SplitMix) blankDisk).2
  exact ⟨hrefused, hmeets, _, _, _, writeGuarded_of_nothingToSend,
    (hends _ _ _ writeGuarded_of_nothingToSend).2 hmeets⟩

end BatchShape

end RackTraffic
