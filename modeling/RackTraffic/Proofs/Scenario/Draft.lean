import RackTraffic.Proofs.Scenario.Batch

/-!
# The drafts of a batch

What a batch draws does not depend on the disk. Taken by itself, the drawing of a batch is a
sequence of drafts (`ScenarioShape.drawDrafts`), and what remains is to write their files
(`Disk.writeFiles`).

**Theorem (`BatchShape.writeScenarios_eq_ok`).** The scenarios of a batch are written well if and
only if its drafts are drawn, from the same state of the source to the same state, and their files
are written. So two batches that start from the same state have the same drafts.

A draft is known from what is sampled for it (`BatchShape.drawDraft_of_samples`).
-/

namespace RackTraffic

variable {σ : Type} [WordSource σ]

/-! ## Drawing without a disk -/

/-- Draw `count` variants of a scenario, of which `first` is the first. -/
def FlowLog.drawVariants (log : FlowLog) (wirelessCount : UInt64) :
    (count first : Nat) → Drawing σ (List AllocationLog)
  | 0, _ => pure []
  | count + 1, first => do
    let variant ← log.drawVariant ⟨.ofNat first⟩ wirelessCount
    let variants ← log.drawVariants wirelessCount count (first + 1)
    return variant :: variants

namespace ScenarioShape

/-- Draw a scenario and its variants. -/
def drawDraft (shape : ScenarioShape) (variantCount wirelessCount : UInt64) (number : Nat) :
    Drawing σ Draft := do
  let log ← shape.draw ⟨.ofNat number⟩
  let variants ← log.drawVariants wirelessCount variantCount.toNat 0
  return { log, variants }

/-- Draw `count` scenarios with their variants, of which `first` is the first. -/
def drawDrafts (shape : ScenarioShape) (variantCount wirelessCount : UInt64) :
    (count first : Nat) → Drawing σ (List Draft)
  | 0, _ => pure []
  | count + 1, first => do
    let draft ← shape.drawDraft variantCount wirelessCount first
    let drafts ← shape.drawDrafts variantCount wirelessCount count (first + 1)
    return draft :: drafts

end ScenarioShape

/-! ### What is drawn fits -/

theorem FlowLog.succeeds_drawVariants {log : FlowLog} {wirelessCount : UInt64} {count : Nat}
    (h : 0 < count → wirelessCount.toNat ≤ log.flows.length) (first : Nat) :
    Drawing.Succeeds (log.drawVariants wirelessCount count first : Drawing σ (List AllocationLog))
      (List.Forall₂ (fun number => log.IsVariant ⟨.ofNat number⟩ wirelessCount.toNat)
        (List.range' first count)) := by
  induction count generalizing first with
  | zero => exact Drawing.succeeds_pure .nil
  | succ count ih =>
    have hle := h (Nat.succ_pos count)
    refine .bind (log.succeeds_drawVariant hle _) fun variant hvariant => ?_
    refine .bind (ih (fun _ => hle) (first + 1)) fun variants hvariants => ?_
    exact Drawing.succeeds_pure (.cons hvariant hvariants)

namespace BatchShape

variable {shape : BatchShape}

theorem ends_drawDraft (hcheck : shape.check = .ok ()) (number : Nat) :
    Drawing.Ends (shape.scenario.drawDraft shape.variantsPerScenario shape.wirelessCount number :
      Drawing σ Draft) (Draft.Fits shape number) shape.scenario.NoData := by
  refine .bind (ScenarioShape.ends_draw (scenario_check_of_check hcheck) _) fun log hlog => ?_
  have hlength : log.flows.length = shape.scenario.flowTotal := hlog.inBlocks.length_eq
  have hcount : 0 < shape.variantsPerScenario.toNat →
      shape.wirelessCount.toNat ≤ log.flows.length :=
    fun hpos => hlength ▸ wirelessCount_le_of_check hcheck hpos
  exact .bind (FlowLog.succeeds_drawVariants hcount 0).ends fun variants hvariants =>
    Drawing.ends_pure ⟨hlog, hvariants⟩

theorem ends_drawDrafts (hcheck : shape.check = .ok ()) (count first : Nat) :
    Drawing.Ends
      (shape.scenario.drawDrafts shape.variantsPerScenario shape.wirelessCount count first :
        Drawing σ (List Draft))
      (List.Forall₂ (Draft.Fits shape) (List.range' first count)) shape.scenario.NoData := by
  induction count generalizing first with
  | zero => exact Drawing.ends_pure .nil
  | succ count ih =>
    refine .bind (ends_drawDraft hcheck first) fun draft hdraft => ?_
    refine .bind (ih (first + 1)) fun drafts hdrafts => ?_
    exact Drawing.ends_pure (.cons hdraft hdrafts)

end BatchShape

/-! ## Drafts from samples -/

section

variable {s s' : σ}

namespace Draw

/-- Draw samples of the same size, one after the other. -/
def samples (population amount : Nat) : (count : Nat) → Draw σ (List (List Nat))
  | 0 => pure []
  | count + 1 => do
    let drawn ← sample population amount
    let rest ← samples population amount count
    return drawn :: rest

theorem samples_succ_eq_some {population amount count : Nat} {lists : List (List Nat)} :
    samples population amount (count + 1) s = some (lists, s') ↔
      ∃ drawn s₁ rest, sample population amount s = some (drawn, s₁) ∧
        samples population amount count s₁ = some (rest, s') ∧ lists = drawn :: rest := by
  simp only [samples, bind, StateT.bind, Option.bind_eq_some_iff, pure, StateT.pure]
  constructor
  · rintro ⟨⟨drawn, s₁⟩, hdrawn, ⟨rest, s₂⟩, hrest, heq⟩
    cases heq
    exact ⟨drawn, s₁, rest, hdrawn, hrest, rfl⟩
  · rintro ⟨drawn, s₁, rest, hdrawn, hrest, rfl⟩
    exact ⟨⟨drawn, s₁⟩, hdrawn, ⟨rest, s'⟩, hrest, rfl⟩

end Draw

/-- The flows between the pairs with sampled numbers, with a time step for each sample. -/
def ScenarioShape.flowsOf (shape : ScenarioShape) : (timeStep : Nat) → List (List Nat) → List Flow
  | _, [] => []
  | timeStep, numbers :: rest =>
    numbers.map (shape.flowAt timeStep) ++ shape.flowsOf (timeStep + 1) rest

/-- The variants in which the flows at sampled places are wireless. -/
def FlowLog.variantsOf (log : FlowLog) : (first : Nat) → List (List Nat) → List AllocationLog
  | _, [] => []
  | first, chosen :: rest =>
    ⟨log.scenario, ⟨.ofNat first⟩, allocate log.flows chosen⟩ :: log.variantsOf (first + 1) rest

theorem ScenarioShape.drawSteps_of_samples {shape : ScenarioShape}
    (hsize : shape.transferSize.count ≠ 0) (hle : shape.flowsPerStep.toNat ≤ shape.pairCount)
    {steps : Nat} {numbers : List (List Nat)}
    (h : Draw.samples shape.pairCount shape.flowsPerStep.toNat steps s = some (numbers, s'))
    (timeStep : Nat) :
    shape.drawSteps steps timeStep s = some (.ok (shape.flowsOf timeStep numbers), s') := by
  induction steps generalizing timeStep s numbers with
  | zero =>
    cases h
    rfl
  | succ steps ih =>
    obtain ⟨drawn, s₁, rest, hdrawn, hrest, rfl⟩ := Draw.samples_succ_eq_some.mp h
    have hlt := (Draw.yields_sample hle s drawn s₁ hdrawn).lt
    refine bind_eq_some_ok.mpr ⟨drawn, s₁, ?_, bind_eq_some_ok.mpr
      ⟨drawn.map (shape.flowAt timeStep), s₁, ?_, bind_eq_some_ok.mpr ⟨_, s', ih hrest _, rfl⟩⟩⟩
    · rw [Drawing.lift_apply, hdrawn]
      rfl
    · rw [flows_eq_ok hsize timeStep hlt]
      rfl

theorem FlowLog.drawVariants_of_samples {log : FlowLog} {wirelessCount : UInt64}
    (hle : wirelessCount.toNat ≤ log.flows.length) {count : Nat} {chosen : List (List Nat)}
    (h : Draw.samples log.flows.length wirelessCount.toNat count s = some (chosen, s'))
    (first : Nat) :
    log.drawVariants wirelessCount count first s =
      some (.ok (log.variantsOf first chosen), s') := by
  induction count generalizing first s chosen with
  | zero =>
    cases h
    rfl
  | succ count ih =>
    obtain ⟨drawn, s₁, rest, hdrawn, hrest, rfl⟩ := Draw.samples_succ_eq_some.mp h
    refine bind_eq_some_ok.mpr ⟨_, s₁, ?_, bind_eq_some_ok.mpr ⟨_, s', ih hrest _, rfl⟩⟩
    rw [drawVariant_apply, if_neg (Nat.not_lt.mpr hle), hdrawn]
    rfl

namespace BatchShape

/-- The draft of sampled numbers and places. -/
def draftOf (shape : BatchShape) (number : Nat) (numbers chosen : List (List Nat)) : Draft :=
  let log : FlowLog := ⟨⟨.ofNat number⟩, shape.scenario.flowsOf 0 numbers⟩
  ⟨log, log.variantsOf 0 chosen⟩

/-- What is sampled decides about the draft. -/
theorem drawDraft_of_samples (shape : BatchShape) (number : Nat)
    (hcheck : shape.scenario.check = .ok ())
    (hsize : shape.scenario.transferSize.count ≠ 0) {s₁ : σ}
    {numbers chosen : List (List Nat)}
    (hnumbers : Draw.samples shape.scenario.pairCount shape.scenario.flowsPerStep.toNat
      shape.scenario.timeSteps.toNat s = some (numbers, s₁))
    (hle : shape.wirelessCount.toNat ≤ (shape.scenario.flowsOf 0 numbers).length)
    (hchosen : Draw.samples (shape.scenario.flowsOf 0 numbers).length shape.wirelessCount.toNat
      shape.variantsPerScenario.toNat s₁ = some (chosen, s')) :
    shape.scenario.drawDraft shape.variantsPerScenario shape.wirelessCount number s =
      some (.ok (shape.draftOf number numbers chosen), s') := by
  have hflows := ScenarioShape.drawSteps_of_samples hsize
    (ScenarioShape.le_pairCount_of_check hcheck) hnumbers 0
  have hlog : shape.scenario.draw ⟨.ofNat number⟩ s =
      some (.ok ⟨⟨.ofNat number⟩, shape.scenario.flowsOf 0 numbers⟩, s₁) := by
    rw [ScenarioShape.draw_of_check hcheck]
    exact bind_eq_some_ok.mpr ⟨_, s₁, hflows, rfl⟩
  exact bind_eq_some_ok.mpr ⟨_, s₁, hlog,
    bind_eq_some_ok.mpr ⟨_, s', FlowLog.drawVariants_of_samples hle hchosen 0, rfl⟩⟩

end BatchShape

end

/-! ## Files that are written one after the other -/

namespace Disk

variable {directory : Path} {d e : Disk} {files files' : List (String × String)}

/-- Write files with given names and texts into a directory, one after the other. -/
def writeFiles (directory : Path) : List (String × String) → DiskAction IoError Unit
  | [] => pure ()
  | (name, text) :: files => do
    writeAtomic (directory.join name) text
    writeFiles directory files

theorem writeFiles_cons_eq_ok {file : String × String} :
    writeFiles directory (file :: files) d = (.ok (), e) ↔
      ∃ d₁, writeAtomic (directory.join file.1) file.2 d = (.ok (), d₁) ∧
        writeFiles directory files d₁ = (.ok (), e) := by
  rw [writeFiles, DiskAction.bind_eq_ok]
  exact ⟨fun ⟨_, d₁, h⟩ => ⟨d₁, h⟩, fun ⟨d₁, h⟩ => ⟨(), d₁, h⟩⟩

theorem writeFiles_append_eq_ok :
    writeFiles directory (files ++ files') d = (.ok (), e) ↔
      ∃ d₁, writeFiles directory files d = (.ok (), d₁) ∧
        writeFiles directory files' d₁ = (.ok (), e) := by
  induction files generalizing d with
  | nil =>
    refine ⟨fun h => ⟨d, rfl, h⟩, ?_⟩
    rintro ⟨d₁, hnil, h⟩
    cases hnil
    exact h
  | cons file files ih =>
    simp only [List.cons_append, writeFiles_cons_eq_ok, ih]
    constructor
    · rintro ⟨d₁, hfile, d₂, hfiles, hfiles'⟩
      exact ⟨d₂, ⟨d₁, hfile, hfiles⟩, hfiles'⟩
    · rintro ⟨d₂, ⟨d₁, hfile, hfiles⟩, hfiles'⟩
      exact ⟨d₁, hfile, d₂, hfiles, hfiles'⟩

theorem wrote_of_writeFiles (hnames : ∀ file ∈ files, IsEntryName file.1)
    (h : writeFiles directory files d = (.ok (), e)) : Wrote directory d files e := by
  induction files generalizing d with
  | nil =>
    cases h
    exact .nil
  | cons file files ih =>
    obtain ⟨hname, hnames⟩ := List.forall_mem_cons.mp hnames
    obtain ⟨d₁, hfile, hfiles⟩ := writeFiles_cons_eq_ok.mp h
    exact (wrote_of_writeAtomic hname hfile).append (ih hnames hfiles)

end Disk

theorem Draft.isEntryName_of_mem_files {draft : Draft} {file : String × String}
    (h : file ∈ draft.files) : IsEntryName file.1 := by
  rcases List.mem_cons.mp h with rfl | hvariant
  · exact draft.log.scenario.isEntryName_flowLogName
  · obtain ⟨variant, -, rfl⟩ := List.mem_map.mp hvariant
    exact variant.id.isEntryName_allocationLogName

/-! ## A batch draws its drafts and writes their files -/

variable {directory : Path} {d e : Disk} {s s' : σ}

theorem FlowLog.writeVariants_eq_ok {log : FlowLog} {wirelessCount : UInt64} {count first : Nat} :
    log.writeVariants directory wirelessCount count first (s, d) = some (.ok (), (s', e)) ↔
      ∃ variants, log.drawVariants wirelessCount count first s = some (.ok variants, s') ∧
        Disk.writeFiles directory (variants.map AllocationLog.file) d = (.ok (), e) := by
  induction count generalizing first s d with
  | zero =>
    constructor
    · intro h
      cases h
      exact ⟨[], rfl, rfl⟩
    · rintro ⟨_, hdraw, hwrite⟩
      cases hdraw
      cases hwrite
      rfl
  | succ count ih =>
    constructor
    · intro h
      obtain ⟨variant, ⟨s₁, d₁⟩, hfirst, hlater⟩ := bind_eq_some_ok.mp h
      obtain ⟨hdraw, rfl⟩ := Batch.draw_eq_ok.mp hfirst
      obtain ⟨path, ⟨s₂, d₂⟩, hsecond, hrest⟩ := bind_eq_some_ok.mp hlater
      obtain ⟨hstore, rfl⟩ := Batch.onDisk_eq_ok.mp hsecond
      obtain ⟨variants, hvariants, hwrite⟩ := ih.mp hrest
      exact ⟨variant :: variants,
        bind_eq_some_ok.mpr ⟨_, _, hdraw, bind_eq_some_ok.mpr ⟨_, _, hvariants, rfl⟩⟩,
        Disk.writeFiles_cons_eq_ok.mpr ⟨_, (AllocationLog.store_eq_ok.mp hstore).1, hwrite⟩⟩
    · rintro ⟨_, hdraw, hwrite⟩
      obtain ⟨variant, s₁, hvariant, hlater⟩ := bind_eq_some_ok.mp hdraw
      obtain ⟨variants, s₂, hvariants, heq⟩ := bind_eq_some_ok.mp hlater
      cases heq
      obtain ⟨d₁, hstore, hrest⟩ := Disk.writeFiles_cons_eq_ok.mp hwrite
      exact bind_eq_some_ok.mpr ⟨_, _, Batch.draw_eq_ok.mpr ⟨hvariant, rfl⟩,
        bind_eq_some_ok.mpr ⟨_, _,
          Batch.onDisk_eq_ok.mpr ⟨AllocationLog.store_eq_ok.mpr ⟨hstore, rfl⟩, rfl⟩,
          ih.mpr ⟨variants, hvariants, hrest⟩⟩⟩

namespace BatchShape

variable {shape : BatchShape} {count first : Nat} {summary summary' : BatchSummary}

theorem writeScenario_eq_ok {number flows : Nat} :
    shape.writeScenario directory number (s, d) = some (.ok flows, (s', e)) ↔
      ∃ draft, shape.scenario.drawDraft shape.variantsPerScenario shape.wirelessCount number s =
          some (.ok draft, s') ∧
        Disk.writeFiles directory draft.files d = (.ok (), e) ∧
        flows = draft.log.flows.length := by
  constructor
  · intro h
    obtain ⟨log, ⟨s₁, d₁⟩, hfirst, hlater⟩ := bind_eq_some_ok.mp h
    obtain ⟨hdraw, rfl⟩ := Batch.draw_eq_ok.mp hfirst
    obtain ⟨path, ⟨s₂, d₂⟩, hsecond, hrest⟩ := bind_eq_some_ok.mp hlater
    obtain ⟨hstore, rfl⟩ := Batch.onDisk_eq_ok.mp hsecond
    obtain ⟨u, ⟨s₃, d₃⟩, hwrite, hreturn⟩ := bind_eq_some_ok.mp hrest
    obtain ⟨variants, hvariants, hfiles⟩ := FlowLog.writeVariants_eq_ok.mp hwrite
    cases hreturn
    exact ⟨⟨log, variants⟩,
      bind_eq_some_ok.mpr ⟨_, _, hdraw, bind_eq_some_ok.mpr ⟨_, _, hvariants, rfl⟩⟩,
      Disk.writeFiles_cons_eq_ok.mpr ⟨_, (FlowLog.store_eq_ok.mp hstore).1, hfiles⟩, rfl⟩
  · rintro ⟨_, hdraw, hwrite, rfl⟩
    obtain ⟨log, s₁, hlog, hlater⟩ := bind_eq_some_ok.mp hdraw
    obtain ⟨variants, s₂, hvariants, heq⟩ := bind_eq_some_ok.mp hlater
    cases heq
    obtain ⟨d₁, hstore, hfiles⟩ := Disk.writeFiles_cons_eq_ok.mp hwrite
    exact bind_eq_some_ok.mpr ⟨_, _, Batch.draw_eq_ok.mpr ⟨hlog, rfl⟩,
      bind_eq_some_ok.mpr ⟨_, _,
        Batch.onDisk_eq_ok.mpr ⟨FlowLog.store_eq_ok.mpr ⟨hstore, rfl⟩, rfl⟩,
        bind_eq_some_ok.mpr ⟨_, _, FlowLog.writeVariants_eq_ok.mpr ⟨variants, hvariants, hfiles⟩,
          rfl⟩⟩⟩

/-- A summary after a draft has been written. -/
def counted (shape : BatchShape) (summary : BatchSummary) (draft : Draft) : BatchSummary where
  flowLogs := summary.flowLogs + 1
  allocationLogs := summary.allocationLogs + shape.variantsPerScenario.toNat
  flows := summary.flows + draft.log.flows.length

/-- **Scenarios are written well if and only if their drafts are drawn and the files of these are
written.** -/
theorem writeScenarios_eq_ok :
    shape.writeScenarios directory count first summary (s, d) = some (.ok summary', (s', e)) ↔
      ∃ drafts, shape.scenario.drawDrafts shape.variantsPerScenario shape.wirelessCount count first
          s = some (.ok drafts, s') ∧
        Disk.writeFiles directory (drafts.flatMap Draft.files) d = (.ok (), e) ∧
        summary' = drafts.foldl shape.counted summary := by
  induction count generalizing first summary s d with
  | zero =>
    constructor
    · intro h
      cases h
      exact ⟨[], rfl, rfl, rfl⟩
    · rintro ⟨_, hdraw, hwrite, rfl⟩
      cases hdraw
      cases hwrite
      rfl
  | succ count ih =>
    constructor
    · intro h
      obtain ⟨flows, ⟨s₁, d₁⟩, hfirst, hlater⟩ := bind_eq_some_ok.mp h
      obtain ⟨draft, hdraft, hfiles, rfl⟩ := writeScenario_eq_ok.mp hfirst
      obtain ⟨drafts, hdrafts, hfiles', hsummary⟩ := ih.mp hlater
      exact ⟨draft :: drafts,
        bind_eq_some_ok.mpr ⟨_, _, hdraft, bind_eq_some_ok.mpr ⟨_, _, hdrafts, rfl⟩⟩,
        Disk.writeFiles_append_eq_ok.mpr ⟨_, hfiles, hfiles'⟩, hsummary⟩
    · rintro ⟨_, hdraw, hwrite, rfl⟩
      obtain ⟨draft, s₁, hdraft, hlater⟩ := bind_eq_some_ok.mp hdraw
      obtain ⟨drafts, s₂, hdrafts, heq⟩ := bind_eq_some_ok.mp hlater
      cases heq
      obtain ⟨d₁, hfiles, hfiles'⟩ := Disk.writeFiles_append_eq_ok.mp hwrite
      exact bind_eq_some_ok.mpr ⟨_, _, writeScenario_eq_ok.mpr ⟨draft, hdraft, hfiles, rfl⟩,
        ih.mpr ⟨drafts, hdrafts, hfiles', rfl⟩⟩

/-- The drafts of a batch that ends well fit, and their files have been written. -/
theorem exists_drafts_of_writeScenarios (hcheck : shape.check = .ok ())
    (h : shape.writeScenarios directory count first summary (s, d) =
      some (.ok summary', (s', e))) :
    ∃ drafts,
      shape.scenario.drawDrafts shape.variantsPerScenario shape.wirelessCount count first s =
        some (.ok drafts, s') ∧ List.Forall₂ (Draft.Fits shape) (List.range' first count) drafts ∧
      Disk.Wrote directory d (drafts.flatMap Draft.files) e := by
  obtain ⟨drafts, hdrafts, hwrite, -⟩ := writeScenarios_eq_ok.mp h
  refine ⟨drafts, hdrafts, ends_drawDrafts hcheck count first s _ s' hdrafts,
    Disk.wrote_of_writeFiles (fun file hfile => ?_) hwrite⟩
  obtain ⟨draft, -, hmem⟩ := List.mem_flatMap.mp hfile
  exact draft.isEntryName_of_mem_files hmem

end BatchShape

end RackTraffic
