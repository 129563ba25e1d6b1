import RackTraffic.Proofs.Disk.Made
import RackTraffic.Proofs.Scenario.Check
import RackTraffic.Proofs.Scenario.Variant
import RackTraffic.Proofs.Traffic.Storage
import RackTraffic.Scenario.Batch

/-!
# What a batch draws and writes

A batch is a sequence of *drafts*: a scenario that the shape can draw, and variants of it
(`Draft.Fits`). A batch that ends well has written the files of its drafts one after the other and
nothing else (`ends_writeScenarios`); one that fails after its checks does so because a file cannot
be written, or because its flows would transfer nothing.

**Theorem (`BatchShape.write_checks`).** The checks come first. A batch that is refused has drawn
nothing and changed nothing, and one that is not refused at first is not refused later: each later
check is about the same numbers, because a scenario that is drawn has as many flows as its shape
says.
-/

namespace RackTraffic

variable {σ α β : Type}

/-! ## How batches end -/

namespace Batch

/-- Every end of a batch that is run on a disk is a value and a disk that satisfy `p`, or a fault
that satisfies `q`. -/
def Ends (act : Batch σ α) (d : Disk) (p : α → Disk → Prop) (q : BatchFault → Prop) : Prop :=
  ∀ s r s' e, act (s, d) = some (r, (s', e)) → IsEnd (p · e) q r

variable {act : Batch σ α} {d : Disk} {p : α → Disk → Prop} {q : BatchFault → Prop}

theorem ends_pure {a : α} (h : p a d) : Ends (pure a : Batch σ α) d p q := by
  intro s r s' e hend
  cases hend
  exact h

theorem Ends.bind {f : α → Batch σ β} {p' : β → Disk → Prop} (h : Ends act d p q)
    (hf : ∀ a e, p a e → Ends (f a) e p' q) : Ends (act >>= f) d p' q := by
  intro s r s' e hend
  rw [bind_apply] at hend
  obtain ⟨⟨r₁, s₁, e₁⟩, hact, hend⟩ := Option.bind_eq_some_iff.mp hend
  have hfirst := h s r₁ s₁ e₁ hact
  cases r₁ with
  | ok a => exact hf a e₁ hfirst s₁ r s' e hend
  | error fault =>
    cases hend
    exact hfirst

theorem ends_draw {act : Drawing σ α} {pa : α → Prop} {qa : DrawFault → Prop}
    (h : act.Ends pa qa) (hq : ∀ fault, qa fault → q (.ofDrawFault fault)) :
    Ends (draw act) d (fun a e => pa a ∧ e = d) q := by
  intro s r s' e hend
  obtain ⟨⟨r₁, s₁⟩, hact, hend⟩ := Option.map_eq_some_iff.mp hend
  cases hend
  have hdrawn := h s r₁ _ hact
  cases r₁ with
  | ok a => exact ⟨hdrawn, rfl⟩
  | error fault => exact hq fault hdrawn

theorem ends_onDisk {ε : Type} {fault : ε → BatchFault} {act : DiskAction ε α}
    (hq : ∀ error, (act d).1 = .error error → q (fault error)) :
    Ends (onDisk fault act : Batch σ α) d (fun a e => act d = (.ok a, e)) q := by
  intro s r s' e hend
  rcases hact : act d with ⟨r₁, e₁⟩
  simp only [onDisk, hact] at hend
  cases hend
  cases r₁ with
  | ok a => rfl
  | error error => exact hq error (by rw [hact])

/-- What is drawn well is drawn as without a disk. -/
theorem draw_eq_ok {act : Drawing σ α} {a : α} {s s' : σ} {e : Disk} :
    draw act (s, d) = some (.ok a, (s', e)) ↔ act s = some (.ok a, s') ∧ e = d := by
  rw [draw, Option.map_eq_some_iff]
  constructor
  · rintro ⟨⟨r, t⟩, hact, heq⟩
    cases r with
    | ok b =>
      cases heq
      exact ⟨hact, rfl⟩
    | error fault => cases heq
  · rintro ⟨hact, rfl⟩
    exact ⟨(.ok a, s'), hact, rfl⟩

/-- What ends well on the disk ends as without a source. -/
theorem onDisk_eq_ok {ε : Type} {fault : ε → BatchFault} {act : DiskAction ε α} {a : α} {s s' : σ}
    {e : Disk} : onDisk fault act (s, d) = some (.ok a, (s', e)) ↔ act d = (.ok a, e) ∧ s' = s := by
  rcases hact : act d with ⟨r, e'⟩
  simp only [onDisk, hact, Option.some.injEq, Prod.mk.injEq, mapError_eq_ok]
  constructor
  · rintro ⟨rfl, rfl, rfl⟩
    exact ⟨rfl, rfl⟩
  · rintro ⟨heq, rfl⟩
    cases heq
    exact ⟨rfl, rfl, rfl⟩

end Batch

/-! ## Drafts -/

/-- A scenario with its variants. -/
structure Draft where
  log : FlowLog
  variants : List AllocationLog

/-- The names and texts of the files of a draft, in the order in which they are written. -/
def Draft.files (draft : Draft) : List (String × String) :=
  draft.log.file :: draft.variants.map AllocationLog.file

/-- A draft is what a batch can draw for the scenario with a given number. -/
structure Draft.Fits (shape : BatchShape) (number : Nat) (draft : Draft) : Prop where
  log : shape.scenario.Draws ⟨.ofNat number⟩ draft.log
  variants : List.Forall₂
    (fun number => draft.log.IsVariant ⟨.ofNat number⟩ shape.wirelessCount.toNat)
    (List.range' 0 shape.variantsPerScenario.toNat) draft.variants

/-- What can end a batch that has passed its checks: a file that cannot be written, or flows that
would transfer nothing. -/
def BatchShape.CanEndIn (shape : BatchShape) (fault : BatchFault) : Prop :=
  (∃ error, fault = .io error) ∨
    shape.scenario.transferSize.count = 0 ∧
      ∃ source destination, fault = .badFlow (.noData source destination)

variable [WordSource σ] {shape : BatchShape} {directory : Path}

theorem FlowLog.ends_writeVariants {log : FlowLog} {wirelessCount : UInt64} {q : BatchFault → Prop}
    (hq : ∀ error, q (.io error)) {count : Nat}
    (h : 0 < count → wirelessCount.toNat ≤ log.flows.length) (first : Nat) (d : Disk) :
    Batch.Ends (log.writeVariants directory wirelessCount count first : Batch σ Unit) d
      (fun _ e => ∃ variants,
        List.Forall₂ (fun number => log.IsVariant ⟨.ofNat number⟩ wirelessCount.toNat)
          (List.range' first count) variants ∧
        Disk.Wrote directory d (variants.map AllocationLog.file) e) q := by
  induction count generalizing first d with
  | zero => exact Batch.ends_pure ⟨[], .nil, .nil⟩
  | succ count ih =>
    have hvariant : Drawing.Ends (log.drawVariant ⟨.ofNat first⟩ wirelessCount : Drawing σ _)
        (log.IsVariant ⟨.ofNat first⟩ wirelessCount.toNat) fun _ => False :=
      (log.succeeds_drawVariant (h (Nat.succ_pos _)) _).ends
    refine .bind (Batch.ends_draw hvariant nofun) fun variant _ hdrawn => ?_
    obtain ⟨hvariant, rfl⟩ := hdrawn
    refine .bind (Batch.ends_onDisk fun error _ => hq error) fun path e₁ hstore => ?_
    intro s r s' e hend
    have hrest := ih (fun _ => h (Nat.succ_pos _)) (first + 1) e₁ s r s' e hend
    cases r with
    | error fault => exact hrest
    | ok u =>
      obtain ⟨variants, hvariants, hwrote⟩ := hrest
      exact ⟨variant :: variants, .cons hvariant hvariants,
        (AllocationLog.wrote_of_store hstore).append hwrote⟩

namespace BatchShape

section

-- what can end a batch is left open: failures of the disk, and what can end the drawing of a
-- scenario
variable {q : BatchFault → Prop} (hio : ∀ error, q (.io error))
  (hdraw : ∀ scenario, Drawing.Ends (shape.scenario.draw scenario : Drawing σ FlowLog)
    (shape.scenario.Draws scenario) fun fault => q (.ofDrawFault fault))
include hio hdraw

theorem ends_writeScenario (hcheck : shape.check = .ok ()) (number : Nat) (d : Disk) :
    Batch.Ends (shape.writeScenario directory number : Batch σ Nat) d
      (fun flows e => ∃ draft, Draft.Fits shape number draft ∧ flows = shape.scenario.flowTotal ∧
        Disk.Wrote directory d draft.files e) q := by
  refine .bind (Batch.ends_draw (hdraw _) fun _ h => h) fun log _ hdrawn => ?_
  obtain ⟨hlog, rfl⟩ := hdrawn
  have hlength : log.flows.length = shape.scenario.flowTotal := hlog.inBlocks.length_eq
  refine .bind (Batch.ends_onDisk fun error _ => hio error) fun path e₁ hstore => ?_
  refine .bind (FlowLog.ends_writeVariants hio (fun hpos => ?_) 0 e₁) fun _ e hvariants => ?_
  · rw [hlength]
    exact wirelessCount_le_of_check hcheck hpos
  obtain ⟨variants, hvariants, hwrote⟩ := hvariants
  exact Batch.ends_pure ⟨⟨log, variants⟩, ⟨hlog, hvariants⟩, hlength,
    (FlowLog.wrote_of_store hstore).append hwrote⟩

theorem ends_writeScenarios (hcheck : shape.check = .ok ()) (count first : Nat)
    (summary : BatchSummary) (d : Disk) :
    Batch.Ends (shape.writeScenarios directory count first summary : Batch σ BatchSummary) d
      (fun summary' e => ∃ drafts,
        List.Forall₂ (Draft.Fits shape) (List.range' first count) drafts ∧
        Disk.Wrote directory d (drafts.flatMap Draft.files) e ∧
        summary' = ⟨summary.flowLogs + count,
          summary.allocationLogs + count * shape.variantsPerScenario.toNat,
          summary.flows + count * shape.scenario.flowTotal⟩) q := by
  induction count generalizing first summary d with
  | zero => exact Batch.ends_pure ⟨[], .nil, .nil, by simp⟩
  | succ count ih =>
    refine .bind (ends_writeScenario hio hdraw hcheck first d) fun flows e₁ hdraft => ?_
    obtain ⟨draft, hfits, rfl, hwrote⟩ := hdraft
    intro s r s' e hend
    have hrest := ih (first + 1) _ e₁ s r s' e hend
    cases r with
    | error fault => exact hrest
    | ok summary' =>
      obtain ⟨drafts, hdrafts, hwrote', rfl⟩ := hrest
      refine ⟨draft :: drafts, .cons hfits hdrafts, hwrote.append hwrote', ?_⟩
      simp only [BatchSummary.mk.injEq, Nat.succ_mul]
      omega

end

theorem ends_draw_scenario (hcheck : shape.check = .ok ()) (scenario : ScenarioId) :
    Drawing.Ends (shape.scenario.draw scenario : Drawing σ FlowLog)
      (shape.scenario.Draws scenario) fun fault => shape.CanEndIn (.ofDrawFault fault) := by
  refine (ScenarioShape.ends_draw (scenario_check_of_check hcheck) scenario).mono fun fault h => ?_
  obtain ⟨hsize, source, destination, rfl⟩ := h
  exact .inr ⟨hsize, source, destination, rfl⟩

/-! ## The checks -/

theorem write_apply (shape : BatchShape) (directory : Path) (allow : Bool) (s : σ) (d : Disk) :
    shape.write directory allow (s, d) =
      match shape.check with
      | .error fault => some (.error (.refused fault), (s, d))
      | .ok () =>
        (Batch.onDisk .output (Disk.prepareOutput directory allow) >>= fun _ =>
          shape.writeScenarios directory shape.scenarioCount.toNat 0 {} : Batch σ BatchSummary)
            (s, d) := by
  rw [write, bind_apply]
  cases shape.check <;> rfl

/-- A batch ends well if and only if it is not refused, the output directory is prepared and the
scenarios are written. -/
theorem write_eq_ok {allow : Bool} {s s' : σ} {d e : Disk} {summary : BatchSummary} :
    shape.write directory allow (s, d) = some (.ok summary, (s', e)) ↔
      shape.check = .ok () ∧ ∃ d₁, Disk.prepareOutput directory allow d = (.ok (), d₁) ∧
        shape.writeScenarios directory shape.scenarioCount.toNat 0 {} (s, d₁) =
          some (.ok summary, (s', e)) := by
  rw [write_apply]
  cases shape.check with
  | error fault => exact iff_of_false nofun nofun
  | ok u =>
    refine bind_eq_some_ok.trans ⟨?_, ?_⟩
    · rintro ⟨u, ⟨s₁, d₁⟩, hprepare, hwrite⟩
      obtain ⟨hprepared, rfl⟩ := Batch.onDisk_eq_ok.mp hprepare
      exact ⟨rfl, d₁, hprepared, hwrite⟩
    · rintro ⟨-, d₁, hprepared, hwrite⟩
      exact ⟨(), (s, d₁), Batch.onDisk_eq_ok.mpr ⟨hprepared, rfl⟩, hwrite⟩

/-- A batch that is not refused prepares the output directory and then writes its drafts. -/
theorem ends_write (hcheck : shape.check = .ok ()) (allow : Bool) (d : Disk) :
    Batch.Ends (shape.write directory allow : Batch σ BatchSummary) d
      (fun summary e => ∃ d₁ drafts, Disk.prepareOutput directory allow d = (.ok (), d₁) ∧
        List.Forall₂ (Draft.Fits shape) (List.range' 0 shape.scenarioCount.toNat) drafts ∧
        Disk.Wrote directory d₁ (drafts.flatMap Draft.files) e ∧
        summary = ⟨shape.scenarioCount.toNat,
          shape.scenarioCount.toNat * shape.variantsPerScenario.toNat,
          shape.scenarioCount.toNat * shape.scenario.flowTotal⟩)
      (fun fault => (∃ reason, fault = .output reason ∧
        (Disk.prepareOutput directory allow d).1 = .error reason) ∨ shape.CanEndIn fault) := by
  rw [write, hcheck]
  refine .bind (p := fun _ e => e = d) (Batch.ends_pure rfl) fun _ _ hd => ?_
  subst hd
  refine .bind (Batch.ends_onDisk fun reason hreason => .inl ⟨reason, rfl, hreason⟩)
    fun _ d₁ hprepared => ?_
  intro s r s' e hend
  have hio : ∀ error, shape.CanEndIn (.io error) := fun error => .inl ⟨error, rfl⟩
  have hwritten := ends_writeScenarios hio (ends_draw_scenario hcheck) hcheck _ _ _ d₁ s r s' e hend
  cases r with
  | error fault => exact .inr hwritten
  | ok summary =>
    obtain ⟨drafts, hdrafts, hwrote, rfl⟩ := hwritten
    exact ⟨d₁, drafts, hprepared, hdrafts, hwrote, by simp⟩

theorem write_of_prepareOutput_error {allow : Bool} {d d₁ : Disk} {reason : OutputFault}
    (hcheck : shape.check = .ok ())
    (h : Disk.prepareOutput directory allow d = (.error reason, d₁)) (s : σ) :
    shape.write directory allow (s, d) = some (.error (.output reason), (s, d₁)) := by
  rw [write_apply, hcheck]
  dsimp only
  rw [bind_apply, Batch.onDisk, h]
  rfl

/-- **A batch checks before it acts.** It is refused if and only if its shape asks for too much,
with the fault of the first way in which it does so; then the source and the disk are as before. If
it is not refused,

* a path to something other than a directory is a fault, and so is a path to a directory that may
  not be written into; then, too, the source and the disk are as before;
* otherwise the batch can only end in a failure of the disk, or, for a shape whose flows would
  transfer nothing, where such a flow is to be drawn. -/
theorem write_checks (shape : BatchShape) (directory : Path) (allow : Bool) (s : σ) (d : Disk) :
    (∀ fault w, shape.write directory allow (s, d) = some (.error (.refused fault), w) ↔
      shape.Exceeds fault ∧ w = (s, d)) ∧
    ((∀ fault, ¬ shape.Exceeds fault) →
      (d.contains directory = true → d.isDirectory directory = false →
        shape.write directory allow (s, d) =
          some (.error (.output (.notADirectory directory)), (s, d))) ∧
      (d.isDirectory directory = true → allow = false →
        shape.write directory allow (s, d) = some (.error (.output (.exists directory)), (s, d))) ∧
      ((d.contains directory = true → d.isDirectory directory = true ∧ allow = true) →
        ∀ fault w, shape.write directory allow (s, d) = some (.error fault, w) →
          (∃ error, fault = .output (.io error)) ∨ shape.CanEndIn fault)) := by
  refine ⟨fun fault w => ?refused, fun hnone => ?_⟩
  case refused =>
    cases hcheck : shape.check with
    | error first =>
      rw [write_apply, hcheck, ← check_eq_error, hcheck]
      simp only [Option.some.injEq, Prod.mk.injEq, Except.error.injEq, BatchFault.refused.injEq,
        @eq_comm _ w]
    | ok u =>
      have hexceeds : ¬ shape.Exceeds fault := check_eq_ok.mp hcheck fault
      refine iff_of_false (fun hend => ?_) fun h => hexceeds h.1
      rcases ends_write hcheck allow d s _ w.1 w.2 hend with ⟨_, h, -⟩ | ⟨_, h⟩ | ⟨-, _, _, h⟩
      all_goals cases h
  have hcheck : shape.check = .ok () := check_eq_ok.mpr hnone
  refine ⟨fun hcontains hdirectory => ?notADirectory, fun hdirectory hallow => ?forbidden,
    fun hgood fault w hend => ?late⟩
  case notADirectory =>
    refine write_of_prepareOutput_error hcheck ?_ s
    rw [Disk.prepareOutput_apply, if_pos hcontains, if_pos hdirectory]
  case forbidden =>
    refine write_of_prepareOutput_error hcheck ?_ s
    rw [Disk.prepareOutput_apply, if_pos (Disk.contains_of_isDirectory hdirectory),
      if_neg (by simp [hdirectory]), if_pos hallow]
  case late =>
    rcases ends_write hcheck allow d s _ w.1 w.2 hend with ⟨reason, rfl, hreason⟩ | hlate
    · rw [Disk.prepareOutput_apply] at hreason
      split_ifs at hreason with hcontains hdirectory hallow
      · simp [(hgood hcontains).1] at hdirectory
      · simp [(hgood hcontains).2] at hallow
      · cases hmake : Disk.makeDirectoryTree directory d with
        | mk r d₁ =>
          rw [DiskAction.mapFailure, hmake] at hreason
          cases r with
          | ok u => cases hreason
          | error error =>
            cases hreason
            exact .inl ⟨error, rfl⟩
    · exact .inr hlate

/-- A scenario with four flows among three racks and one variant of it, with a given number of
wireless flows. -/
def oneVariant (wirelessCount : UInt64) : BatchShape :=
  { scenario := ScenarioShape.threeRacks, variantsPerScenario := 1, wirelessCount }

/-- A disk with a file and an empty directory. -/
def fileAndDirectory : Disk :=
  ((⟨∅, []⟩ : Disk).put ["f"] (.file .empty false)).put ["o"] .directory

theorem write_checks_oneVariant :
    (oneVariant 5).write ⟨"o"⟩ true ((⟨0⟩ : SplitMix), fileAndDirectory) =
        some (.error (.refused (.tooMany .flows 5 4)), (⟨0⟩, fileAndDirectory)) ∧
      (oneVariant 2).write ⟨"f"⟩ true ((⟨0⟩ : SplitMix), fileAndDirectory) =
        some (.error (.output (.notADirectory ⟨"f"⟩)), (⟨0⟩, fileAndDirectory)) ∧
      (oneVariant 2).write ⟨"o"⟩ false ((⟨0⟩ : SplitMix), fileAndDirectory) =
        some (.error (.output (.exists ⟨"o"⟩)), (⟨0⟩, fileAndDirectory)) ∧
      ∃ fault w, (oneVariant 2).write ⟨"f/o"⟩ false ((⟨0⟩ : SplitMix), fileAndDirectory) =
        some (.error fault, w) ∧
          ((∃ error, fault = .output (.io error)) ∨ (oneVariant 2).CanEndIn fault) := by
  have hexceeds : (oneVariant 5).Exceeds (.tooMany .flows 5 4) := check_eq_error.mp (by decide)
  have hcheck : (oneVariant 2).check = .ok () := by decide
  have hnone := check_eq_ok.mp hcheck
  refine ⟨?_, ?_, ?_, ?_⟩
  · exact ((write_checks (oneVariant 5) ⟨"o"⟩ true (⟨0⟩ : SplitMix) fileAndDirectory).1 _ _).mpr
      ⟨hexceeds, rfl⟩
  · exact ((write_checks (oneVariant 2) ⟨"f"⟩ true (⟨0⟩ : SplitMix) fileAndDirectory).2 hnone).1
      (by decide +kernel) (by decide +kernel)
  · exact ((write_checks (oneVariant 2) ⟨"o"⟩ false (⟨0⟩ : SplitMix) fileAndDirectory).2 hnone).2.1
      (by decide +kernel) rfl
  · have hprepared : (Disk.prepareOutput ⟨"f/o"⟩ false fileAndDirectory).1 =
        .error (.io .notADirectory) := by decide +kernel
    have hend := write_of_prepareOutput_error hcheck (Prod.ext hprepared rfl) (⟨0⟩ : SplitMix)
    refine ⟨_, _, hend, ?_⟩
    exact ((write_checks (oneVariant 2) ⟨"f/o"⟩ false (⟨0⟩ : SplitMix) fileAndDirectory).2
      hnone).2.2 (fun h => absurd h (by decide +kernel)) _ _ hend

end BatchShape

end RackTraffic
