import RackTraffic.Proofs.Matrix.Batch
import RackTraffic.Proofs.Scenario.Stored
import RackTraffic.Proofs.Traffic.Listing

/-!
# The tensors of a batch that has been drawn

**Theorem (`BatchShape.shown_of_write`).** A batch that has been written into a directory that was
not there has tensors, if they can be stored. Their entries are the variants of the batch in order.
The inputs of a variant show the flows of its scenario, and its labels mark some of them: as many as
flows were to be wireless, except that flows of different time steps may share a mark.

The files of the batch are the only allocation logs in the directory: nothing can have been below a
place where nothing was, and what is made on the way there are directories.
-/

namespace RackTraffic

namespace BatchShape

/-- The pairs of a batch, scenario by scenario. -/
def pairs (shape : BatchShape) : List PairId :=
  (List.range shape.scenarioCount.toNat).flatMap fun s =>
    (List.range shape.variantsPerScenario.toNat).map (PairId.nth s)

theorem allocationLogName_mem_fileNames {shape : BatchShape} {id : PairId} :
    id.allocationLogName ∈ shape.fileNames ↔ id ∈ shape.pairs := by
  simp only [fileNames, pairs, List.mem_flatMap, List.mem_cons, List.mem_map]
  constructor
  · rintro ⟨s, hs, hname | ⟨v, hv, hname⟩⟩
    · exact absurd hname.symm (flowLogName_ne_allocationLogName _ _)
    · exact ⟨s, hs, v, hv, PairId.allocationLogName_injective hname⟩
  · rintro ⟨s, hs, v, hv, rfl⟩
    exact ⟨s, hs, .inr ⟨v, hv, rfl⟩⟩

theorem length_pairs (shape : BatchShape) :
    shape.pairs.length = shape.scenarioCount.toNat * shape.variantsPerScenario.toNat := by
  simp [pairs]

/-- The pairs of a batch are in order. -/
theorem pairwise_pairs (shape : BatchShape) : shape.pairs.Pairwise (· < ·) := by
  have htoNat : ∀ {i : Nat} {count : UInt64}, i < count.toNat → (UInt64.ofNat i).toNat = i :=
    fun {i count} hi => UInt64.toNat_ofNat_of_lt' (Nat.lt_trans hi count.toNat_lt)
  refine List.pairwise_flatMap.mpr ⟨fun s hs => ?_, ?_⟩
  · refine List.pairwise_map.mpr (List.pairwise_lt_range.imp_of_mem fun {v w} hv hw hlt => ?_)
    refine PairId.lt_def.mpr (.inr ⟨rfl, ?_⟩)
    rwa [PairId.nth, PairId.nth, htoNat (List.mem_range.mp hv), htoNat (List.mem_range.mp hw)]
  · refine List.pairwise_lt_range.imp_of_mem fun {s t} hs ht hlt a ha b hb => ?_
    obtain ⟨v, -, rfl⟩ := List.mem_map.mp ha
    obtain ⟨w, -, rfl⟩ := List.mem_map.mp hb
    refine PairId.lt_def.mpr (.inl (ScenarioId.lt_def.mpr ?_))
    rwa [PairId.nth, PairId.nth, ScenarioId.nth, ScenarioId.nth, htoNat (List.mem_range.mp hs),
      htoNat (List.mem_range.mp ht)]

end BatchShape

/-! ## The allocations of the drafts -/

namespace Draft

variable {shape : BatchShape} {drafts : List Draft} {draft : Draft} {s : Nat}

/-- The drafts of a batch have the pairs that its shape says. -/
theorem map_id_allocations
    (h : List.Forall₂ (Fits shape) (List.range' 0 shape.scenarioCount.toNat) drafts) :
    (drafts.flatMap Draft.variants).map AllocationLog.id = shape.pairs := by
  rw [← List.range_eq_range'] at h
  rw [List.map_flatMap]
  exact flatMap_eq_flatMap_of_forall₂ h fun s draft hfits => hfits.map_id_variants

theorem Fits.length_variants (h : draft.Fits shape s) :
    draft.variants.length = shape.variantsPerScenario.toNat := by
  rw [← h.variants.length_eq, List.length_range']

/-- Each draft that a batch can draw is one for some number. -/
theorem exists_fits
    (h : List.Forall₂ (Fits shape) (List.range' 0 shape.scenarioCount.toNat) drafts)
    (hdraft : draft ∈ drafts) : ∃ s, draft.Fits shape s := by
  obtain ⟨s, -, hfits⟩ := exists_mem_of_forall₂ h hdraft
  exact ⟨s, hfits⟩

/-- The place of a variant among the allocations. -/
theorem getElem?_allocations
    (h : List.Forall₂ (Fits shape) (List.range' 0 shape.scenarioCount.toNat) drafts)
    (hdraft : drafts[s]? = some draft) {v : Nat} (hv : v < shape.variantsPerScenario.toNat) :
    (drafts.flatMap Draft.variants)[s * shape.variantsPerScenario.toNat + v]? =
      draft.variants[v]? := by
  refine getElem?_flatMap_of_length (fun other hother => ?_) hdraft hv
  obtain ⟨t, hfits⟩ := exists_fits h hother
  exact hfits.length_variants

theorem Fits.within (h : draft.Fits shape s) {variant : AllocationLog}
    (hvariant : variant ∈ draft.variants) :
    ∀ allocated ∈ variant.flows, allocated.flow.Within shape.scenario.rackCount := by
  intro allocated hmem
  obtain ⟨v, hdrawn⟩ := h.isVariant hvariant
  have hflow : allocated.flow ∈ draft.log.flows := by
    rw [← hdrawn.flows_eq]
    exact List.mem_map_of_mem hmem
  obtain ⟨-, hsource, hdestination⟩ := h.log.inBlocks.fitsShape.between _ hflow
  exact ⟨hsource, hdestination⟩

end Draft

/-- In a single time step, no two flows lead between the same racks. -/
theorem FlowLog.FitsShape.pairwise_of_timeSteps_eq_one {log : FlowLog} {shape : ScenarioShape}
    (h : log.FitsShape shape) (hone : shape.timeSteps = 1) :
    log.flows.Pairwise fun f g => (f.source, f.destination) ≠ (g.source, g.destination) := by
  have hlength := h.length_eq
  rw [hone, UInt64.toNat_one, Nat.one_mul] at hlength
  have hzero : ∀ flow ∈ log.flows, flow.timeStep = 0 := by
    intro flow hflow
    obtain ⟨i, hi, rfl⟩ := List.getElem_of_mem hflow
    obtain ⟨flow, hget, htime⟩ := h.timeStep 0 (by rw [hone]; decide) i (hlength ▸ hi)
    rw [Nat.zero_mul, Nat.zero_add, List.getElem?_eq_getElem hi, Option.some.injEq] at hget
    rw [hget]
    exact UInt64.toNat_inj.mp htime
  exact h.distinct.imp_of_mem fun {f g} hf hg hne => hne (by rw [hzero f hf, hzero g hg])

/-! ## What the tensors show -/

/-- What entry `k` of the tensors shows of a scenario and one of its variants. -/
structure BatchShape.ShownAt (shape : BatchShape) (log : FlowLog) (tensors : Stack) (k : Nat) :
    Prop where
  /-- The inputs mark the pairs of racks between which a flow of the scenario leads. -/
  input : ∀ i < shape.scenario.rackCount.toNat, ∀ j < shape.scenario.rackCount.toNat,
    tensors.inputs.at? [k, 0, i, j] = some (decide (∃ flow ∈ log.flows, flow.Leads i j))
  diagonal : ∀ i < shape.scenario.rackCount.toNat, tensors.inputs.at? [k, 0, i, i] = some false
  /-- The labels mark some of these pairs. -/
  label : ∀ i < shape.scenario.rackCount.toNat, ∀ j < shape.scenario.rackCount.toNat, ∃ mark,
    tensors.labels.at? [k, i * shape.scenario.rackCount.toNat + j, 0] = some mark ∧
      (mark = true → tensors.inputs.at? [k, 0, i, j] = some true)
  labelCount_le :
    tensors.labelCount shape.scenario.rackCount.toNat k ≤ shape.wirelessCount.toNat
  labelCount_pos : 0 < shape.wirelessCount.toNat →
    0 < tensors.labelCount shape.scenario.rackCount.toNat k
  labelCount_eq : shape.scenario.timeSteps = 1 →
    tensors.labelCount shape.scenario.rackCount.toNat k = shape.wirelessCount.toNat

/-- What the tensors of a directory show of a batch that has been written there. -/
structure BatchShape.Shown (shape : BatchShape) (directory : Path) (e : Disk)
    (batch : TensorBatch) :
    Prop where
  ids_eq : batch.ids = shape.pairs
  inputShape : batch.tensors.inputs.shape =
    [shape.pairs.length, 1, shape.scenario.rackCount.toNat, shape.scenario.rackCount.toNat]
  labelShape : batch.tensors.labels.shape =
    [shape.pairs.length, shape.scenario.rackCount.toNat * shape.scenario.rackCount.toNat, 1]
  entry : ∀ s < shape.scenarioCount.toNat, ∃ log,
    e.readFlowLog (directory.join (ScenarioId.nth s).flowLogName) = .ok log ∧
      ∀ v < shape.variantsPerScenario.toNat,
        batch.ids[s * shape.variantsPerScenario.toNat + v]? = some (PairId.nth s v) ∧
          shape.ShownAt log batch.tensors (s * shape.variantsPerScenario.toNat + v)

/-- What is shown of a draft. -/
theorem Draft.Fits.shownAt {shape : BatchShape} {draft : Draft} {s k : Nat}
    {logs : List AllocationLog} {batch : TensorBatch} {variant : AllocationLog} {id : VariantId}
    (h : draft.Fits shape s) (hshows : batch.Shows shape.scenario.rackCount logs)
    (hk : logs[k]? = some variant) (hvariant : variant ∈ draft.variants)
    (hdrawn : draft.log.IsVariant id shape.wirelessCount.toNat variant) :
    shape.ShownAt draft.log batch.tensors k := by
  have hflows : ∀ i j, (∃ allocated ∈ variant.flows, allocated.flow.Leads i j) ↔
      ∃ flow ∈ draft.log.flows, flow.Leads i j := by
    intro i j
    simp [← hdrawn.flows_eq]
  have hinput : ∀ i < shape.scenario.rackCount.toNat, ∀ j < shape.scenario.rackCount.toNat,
      batch.tensors.inputs.at? [k, 0, i, j] =
        some (decide (∃ flow ∈ draft.log.flows, flow.Leads i j)) := by
    intro i hi j hj
    rw [hshows.input k variant hk i hi j hj, Option.some.injEq, decide_eq_decide, hflows]
  have hcount : variant.flows.countP (·.link.isWireless) = shape.wirelessCount.toNat :=
    hdrawn.wirelessCount_eq
  have hlabels := hshows.labelCount_eq hk (h.within hvariant)
  refine ⟨hinput, fun i hi => ?diagonal, fun i hi j hj => ?label, ?le, fun hpos => ?pos,
    fun hone => ?eq⟩
  case diagonal =>
    rw [hinput i hi i hi, Option.some.injEq, decide_eq_false_iff_not]
    rintro ⟨flow, hflow, hsource, hdestination⟩
    refine (h.log.inBlocks.fitsShape.between flow hflow).1 ?_
    cases hends : flow.source
    cases hends' : flow.destination
    simp_all [← UInt64.toNat_inj]
  case label =>
    refine ⟨_, hshows.label k variant hk i hi j hj, fun hmark => ?_⟩
    obtain ⟨allocated, hmem, -, hleads⟩ := of_decide_eq_true hmark
    rw [hshows.input k variant hk i hi j hj, decide_eq_true ⟨allocated, hmem, hleads⟩]
  case le =>
    rw [hlabels, ← hcount]
    exact length_dedup_wirelessCells_le _ _
  case pos =>
    rw [hlabels]
    exact length_dedup_wirelessCells_pos _ (hcount ▸ hpos)
  case eq =>
    have hdistinct := h.log.inBlocks.fitsShape.pairwise_of_timeSteps_eq_one hone
    rw [← hdrawn.flows_eq, List.pairwise_map] at hdistinct
    rw [hlabels, length_dedup_wirelessCells (h.within hvariant) hdistinct, hcount]

/-! ## The directory of a batch -/

section

variable {shape : BatchShape} {directory : Path} {allow : Bool} {d d₁ e : Disk}
  {drafts : List Draft} (htree : d.IsTree) (hnew : d.at? (d.destination directory) = none)
  (hprepared : Disk.prepareOutput directory allow d = (.ok (), d₁))
  (hdrafts : List.Forall₂ (Draft.Fits shape) (List.range' 0 shape.scenarioCount.toNat) drafts)
  (hwrote : Disk.Wrote directory d₁ (drafts.flatMap Draft.files) e)
include htree hnew hprepared hwrote

/-- The directory of a batch is there. -/
theorem find_directory_of_wrote :
    e.find directory = .ok (d.destination directory, .directory) := by
  have htext : directory.text ≠ "" := by
    intro htext
    rw [Disk.destination_eq_current htext, htree.current] at hnew
    cases hnew
  obtain ⟨hlocate, hdirectory⟩ := Disk.locate_of_prepareOutput hprepared htext
  have hdirectory' := (hwrote.directories.directory _).mp hdirectory
  exact Disk.find_of_directory (hwrote.directories.locate_ok hlocate) hdirectory'

include hdrafts

/-- The files of the batch are the only allocation logs in its directory. -/
theorem fileAt_allocationLogName_of_wrote (id : PairId) :
    e.FileAt (id.allocationLogName :: d.destination directory) ↔ id ∈ shape.pairs := by
  have hnames := Draft.map_fst_files hdrafts
  rw [← BatchShape.allocationLogName_mem_fileNames, ← hnames, hwrote.eq,
    (Disk.growsBy_of_prepareOutput hprepared).destination_eq]
  constructor
  · rintro ⟨entry, hentry, hfile⟩
    by_contra hname
    have hother : ∀ file ∈ drafts.flatMap Draft.files,
        id.allocationLogName :: d.destination directory ≠ file.1 :: d.destination directory := by
      intro file hmem heq
      exact hname ((List.cons.inj heq).1 ▸ List.mem_map_of_mem hmem)
    rw [Disk.at?_putFiles_of_ne hother] at hentry
    obtain ⟨rfl, -⟩ := htree.of_prepareOutput hnew hprepared hentry
    cases hfile
  · intro hname
    obtain ⟨⟨_, text⟩, hfile, rfl⟩ := List.mem_map.mp hname
    exact ⟨_, Disk.at?_putFiles_of_mem (hnames ▸ shape.nodup_fileNames) hfile, rfl⟩

/-- The directory has tensors, and they show the variants of the drafts. -/
theorem exists_tensorBatch_of_wrote
    (hstorable : storable [shape.pairs.length, 1, shape.scenario.rackCount.toNat,
      shape.scenario.rackCount.toNat] = true) :
    ∃ batch, e.tensorBatch directory shape.scenario.rackCount = .ok batch ∧
      batch.Shows shape.scenario.rackCount (drafts.flatMap Draft.variants) := by
  have hids := Draft.map_id_allocations hdrafts
  have hlogs := Disk.allocationLogs_of_fileAt
    (find_directory_of_wrote htree hnew hprepared hwrote) shape.pairwise_pairs
    (fileAt_allocationLogName_of_wrote htree hnew hprepared hdrafts hwrote)
  rw [← hids, List.map_map] at hlogs
  rw [← hids, List.length_map] at hstorable
  refine Disk.tensorBatch_eq_ok hlogs (fun log hlog => ?_) hstorable fun log hlog => ?_
  all_goals
    obtain ⟨draft, hdraft, hvariant⟩ := List.mem_flatMap.mp hlog
    obtain ⟨number, hfits⟩ := Draft.exists_fits hdrafts hdraft
  · exact readAllocationLog_of_wrote hdrafts hwrote hdraft hfits hvariant
  · exact hfits.within hvariant

end

variable {σ : Type} [WordSource σ] {shape : BatchShape} {directory : Path} {allow : Bool} {s s' : σ}
  {d e : Disk} {summary : BatchSummary}

/-- **A batch in a new directory has tensors, and they show it.** -/
theorem BatchShape.shown_of_write
    (h : shape.write directory allow (s, d) = some (.ok summary, (s', e))) (htree : d.IsTree)
    (hnew : d.at? (d.destination directory) = none)
    (hstorable : storable [shape.scenarioCount.toNat * shape.variantsPerScenario.toNat, 1,
      shape.scenario.rackCount.toNat, shape.scenario.rackCount.toNat] = true) :
    ∃ batch, e.tensorBatch directory shape.scenario.rackCount = .ok batch ∧
      shape.Shown directory e batch := by
  obtain ⟨d₁, drafts, hprepared, hdrafts, hwrote, -⟩ :=
    ends_write (check_of_write h) allow d s _ s' e h
  rw [← shape.length_pairs] at hstorable
  obtain ⟨batch, hbatch, hshows⟩ :=
    exists_tensorBatch_of_wrote htree hnew hprepared hdrafts hwrote hstorable
  have hids := Draft.map_id_allocations hdrafts
  have hpairs : (drafts.flatMap Draft.variants).length = shape.pairs.length := by
    rw [← hids, List.length_map]
  refine ⟨batch, hbatch, hshows.ids_eq.trans hids, hpairs ▸ hshows.inputShape,
    hpairs ▸ hshows.labelShape, fun number hnumber => ?_⟩
  obtain ⟨draft, hdraft, hfits⟩ := Draft.exists_draft hdrafts hnumber
  have hmem := List.mem_of_getElem? hdraft
  have hlog := readFlowLog_of_wrote hdrafts hwrote hmem hfits
  rw [FlowLog.pathIn, hfits.log.scenario_eq] at hlog
  refine ⟨draft.log, hlog, fun v hv => ?_⟩
  obtain ⟨variant, hvariant, hdrawn⟩ := hfits.exists_variant hv
  have hk := (Draft.getElem?_allocations hdrafts hdraft hv).trans hvariant
  refine ⟨?_, hfits.shownAt hshows hk (List.mem_of_getElem? hvariant) hdrawn⟩
  rw [hshows.ids_eq, List.getElem?_map, hk, Option.map_some, hdrawn.id_eq, hfits.log.scenario_eq]
  rfl

/-- The scenarios that have been drawn for a batch are read from their files. -/
theorem readFlowLog_of_write {t : σ} {drafts : List Draft} {draft : Draft}
    (h : shape.write directory allow (s, d) = some (.ok summary, (s', e)))
    (hdrawn : shape.scenario.drawDrafts shape.variantsPerScenario shape.wirelessCount
      shape.scenarioCount.toNat 0 s = some (.ok drafts, t)) (hdraft : draft ∈ drafts) :
    e.readFlowLog (draft.log.pathIn directory) = .ok draft.log := by
  obtain ⟨hcheck, d₁, -, hwrite⟩ := BatchShape.write_eq_ok.mp h
  obtain ⟨drafts', hdrawn', hdrafts, hwrote⟩ :=
    BatchShape.exists_drafts_of_writeScenarios hcheck hwrite
  obtain rfl : drafts' = drafts := by
    rw [hdrawn] at hdrawn'
    cases hdrawn'
    rfl
  obtain ⟨number, hfits⟩ := Draft.exists_fits hdrafts hdraft
  exact readFlowLog_of_wrote hdrafts hwrote hdraft hfits

/-! ## A batch with two scenarios -/

namespace BatchShape

/-- Two scenarios with two variants each. A scenario has four flows in two time steps, and three of
them are wireless. -/
def threeRacks : BatchShape where
  scenario := .threeRacks
  scenarioCount := 2
  variantsPerScenario := 2
  wirelessCount := 3

/-- The first draft. Its flows lead from rack 0 to rack 2 and from rack 1 to rack 0, in both time
steps. -/
def threeRacksFirst : Draft := threeRacks.draftOf 0 [[1, 2], [2, 1]] [[3, 1, 0], [2, 3, 1]]

/-- The second draft, with one flow from rack 0 to rack 1. -/
def threeRacksSecond : Draft := threeRacks.draftOf 1 [[2, 4], [1, 0]] [[1, 0, 2], [3, 2, 1]]

/-- What a small source yields for the first scenario and its variants, and after these. -/
theorem samples_threeRacks :
    Draw.samples 6 2 2 (⟨75⟩ : SplitMix) = some ([[1, 2], [2, 1]], ⟨1663341875487337652⟩) ∧
    Draw.samples 4 3 2 (⟨1663341875487337652⟩ : SplitMix) =
      some ([[3, 1, 0], [2, 3, 1]], ⟨12036054880848365937⟩) ∧
    Draw.samples 6 2 2 (⟨12036054880848365937⟩ : SplitMix) =
      some ([[2, 4], [1, 0]], ⟨13699396756335703514⟩) ∧
    Draw.samples 4 3 2 (⟨13699396756335703514⟩ : SplitMix) =
      some ([[1, 0, 2], [3, 2, 1]], ⟨2934021998537672406⟩) := by
  refine ⟨?_, ?_, ?_, ?_⟩
  all_goals
    simp only [Draw.samples]
    rw [Draw.sample_eq_sampleOnePass (by decide) (by decide)]
    cbv

theorem drawDrafts_threeRacks : threeRacks.scenario.drawDrafts 2 3 2 0 (⟨75⟩ : SplitMix) =
    some (.ok [threeRacksFirst, threeRacksSecond], ⟨2934021998537672406⟩) := by
  obtain ⟨hnumbers, hchosen, hnumbers', hchosen'⟩ := samples_threeRacks
  have hfirst := threeRacks.drawDraft_of_samples 0 (by decide) (by decide)
    hnumbers (by decide) hchosen
  have hsecond := threeRacks.drawDraft_of_samples 1 (by decide) (by decide)
    hnumbers' (by decide) hchosen'
  exact bind_eq_some_ok.mpr ⟨_, _, hfirst, bind_eq_some_ok.mpr
    ⟨_, _, bind_eq_some_ok.mpr ⟨_, _, hsecond, rfl⟩, rfl⟩⟩

theorem write_threeRacks : ∃ e, threeRacks.write ⟨"o"⟩ false ((⟨75⟩ : SplitMix), blankDisk) =
    some (.ok ⟨2, 4, 8⟩, (⟨2934021998537672406⟩, e)) := by
  have hprepared : (Disk.prepareOutput ⟨"o"⟩ false blankDisk).1 = .ok () := by decide +kernel
  have hwrite : (Disk.writeFiles ⟨"o"⟩ ([threeRacksFirst, threeRacksSecond].flatMap Draft.files)
      (preparedDisk ⟨"o"⟩)).1 = .ok () := by decide +kernel
  obtain ⟨e, hfiles⟩ := DiskAction.exists_eq_ok hwrite
  exact ⟨e, write_eq_ok.mpr ⟨by decide, preparedDisk ⟨"o"⟩, Prod.ext hprepared rfl,
    writeScenarios_eq_ok.mpr ⟨_, drawDrafts_threeRacks, hfiles, rfl⟩⟩⟩

/-- Three wireless flows between only two pairs of racks leave at most two labels. -/
theorem ShownAt.labelCount_lt_threeRacks {tensors : Stack} {k : Nat}
    (h : threeRacks.ShownAt threeRacksFirst.log tensors k) : tensors.labelCount 3 k < 3 := by
  have hpairs : ∀ i < 3, ∀ j < 3, (∃ flow ∈ threeRacksFirst.log.flows, flow.Leads i j) →
      i * 3 + j = 2 ∨ i * 3 + j = 3 := by decide
  have hcell : ∀ cell ∈ List.range (3 * 3), tensors.labels.at? [k, cell, 0] = some true →
      cell = 2 ∨ cell = 3 := by
    intro cell hcell hlabel
    obtain ⟨i, hi, j, hj, rfl⟩ : ∃ i < 3, ∃ j < 3, i * 3 + j = cell :=
      ⟨cell / 3, Nat.div_lt_of_lt_mul (List.mem_range.mp hcell), cell % 3,
        Nat.mod_lt _ (by decide), Nat.div_add_mod' cell 3⟩
    obtain ⟨mark, hmark, hshown⟩ := h.label i hi j hj
    obtain rfl : true = mark := Option.some.inj (hlabel.symm.trans hmark)
    have hinput := (h.input i hi j hj).symm.trans (hshown rfl)
    exact hpairs i hi j hj (of_decide_eq_true (Option.some.inj hinput))
  have hle : tensors.labelCount 3 k ≤ (List.range (3 * 3)).countP fun cell => cell = 2 ∨ cell = 3 :=
    List.countP_mono_left fun cell hmem hlabel => by
      simpa using hcell cell hmem (by simpa using hlabel)
  exact Nat.lt_of_le_of_lt hle (by decide)

/-- The variants follow each other in the order of the scenarios. A flow from rack 0 to rack 1 is
only in the second scenario, and the wireless flows of the first one share labels. -/
theorem shown_of_write_threeRacks : ∃ s' e batch,
    threeRacks.write ⟨"o"⟩ false ((⟨75⟩ : SplitMix), blankDisk) = some (.ok ⟨2, 4, 8⟩, (s', e)) ∧
      e.tensorBatch ⟨"o"⟩ 3 = .ok batch ∧ threeRacks.Shown ⟨"o"⟩ e batch ∧
      batch.ids = [⟨⟨0⟩, ⟨0⟩⟩, ⟨⟨0⟩, ⟨1⟩⟩, ⟨⟨1⟩, ⟨0⟩⟩, ⟨⟨1⟩, ⟨1⟩⟩] ∧
      batch.tensors.inputs.at? [1, 0, 0, 1] = some false ∧
      batch.tensors.inputs.at? [2, 0, 0, 1] = some true ∧
      0 < batch.tensors.labelCount 3 1 ∧ batch.tensors.labelCount 3 1 < 3 := by
  obtain ⟨e, hwrite⟩ := write_threeRacks
  have htree : blankDisk.IsTree := ⟨rfl, fun name place entry hentry => by cases hentry⟩
  obtain ⟨batch, hbatch, hshown⟩ :=
    shown_of_write hwrite htree (by decide +kernel) (by decide +kernel)
  obtain ⟨log, hlog, hentry⟩ := hshown.entry 0 (by decide)
  obtain ⟨log', hlog', hentry'⟩ := hshown.entry 1 (by decide)
  have hread := readFlowLog_of_write hwrite drawDrafts_threeRacks (.head _)
  have hread' := readFlowLog_of_write hwrite drawDrafts_threeRacks (.tail _ (.head _))
  obtain rfl := Except.ok.inj (hlog.symm.trans hread)
  obtain rfl := Except.ok.inj (hlog'.symm.trans hread')
  obtain ⟨-, hfirst⟩ := hentry 1 (by decide)
  obtain ⟨-, hsecond⟩ := hentry' 0 (by decide)
  refine ⟨_, e, batch, hwrite, hbatch, hshown, hshown.ids_eq, ?_, ?_,
    hfirst.labelCount_pos (by decide),
    hfirst.labelCount_lt_threeRacks⟩
  · exact (hfirst.input 0 (by decide) 1 (by decide)).trans (by decide)
  · exact (hsecond.input 0 (by decide) 1 (by decide)).trans (by decide)

end BatchShape

end RackTraffic
