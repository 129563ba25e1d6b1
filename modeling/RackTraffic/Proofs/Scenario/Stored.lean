import RackTraffic.Proofs.Lists
import RackTraffic.Proofs.Scenario.Draft
import RackTraffic.Proofs.Traffic.FileRole

/-!
# What is read of a batch that has been written

**Theorem (`BatchShape.stored_of_write`).** After a batch has ended well, each of its scenarios and
each of its variants is read from the file with its name, and they fit the shape of the batch and
each other. Nothing else has happened on the disk but that directories have been made at places that
the path of the output directory passes.

The names of the files are different (`nodup_fileNames`), so none of them has been overwritten by a
later one, and their labels are all the same, so that the logs are read back.
-/

namespace RackTraffic

/-- The scenario with a given number. -/
def ScenarioId.nth (s : Nat) : ScenarioId := ⟨.ofNat s⟩

/-- The variant with a given number of the scenario with a given number. -/
def PairId.nth (s v : Nat) : PairId := ⟨.nth s, ⟨.ofNat v⟩⟩

/-! ## Names -/

theorem ScenarioId.flowLogName_injective {a b : ScenarioId} (h : a.flowLogName = b.flowLogName) :
    a = b :=
  Option.some.inj ((ofFlowLogName?_eq_some.mpr rfl).symm.trans (ofFlowLogName?_eq_some.mpr h.symm))

theorem PairId.allocationLogName_injective {a b : PairId}
    (h : a.allocationLogName = b.allocationLogName) : a = b :=
  Option.some.inj
    ((ofAllocationLogName?_eq_some.mpr rfl).symm.trans (ofAllocationLogName?_eq_some.mpr h.symm))

theorem flowLogName_ne_allocationLogName (s : ScenarioId) (id : PairId) :
    s.flowLogName ≠ id.allocationLogName :=
  FileRole.name_ne (nofun : FileRole.flowLog s ≠ .allocationLog id)

theorem UInt64.ofNat_injective_of_lt {m n : Nat} {count : UInt64} (hm : m < count.toNat)
    (hn : n < count.toNat) (h : UInt64.ofNat m = UInt64.ofNat n) : m = n := by
  have hcount := count.toNat_lt
  rw [← UInt64.toNat_ofNat_of_lt' (Nat.lt_trans hm hcount), h,
    UInt64.toNat_ofNat_of_lt' (Nat.lt_trans hn hcount)]

/-- The names of the files of a batch. -/
def BatchShape.fileNames (shape : BatchShape) : List String :=
  (List.range shape.scenarioCount.toNat).flatMap fun s =>
    (ScenarioId.nth s).flowLogName ::
      (List.range shape.variantsPerScenario.toNat).map fun v => (PairId.nth s v).allocationLogName

theorem BatchShape.nodup_fileNames (shape : BatchShape) : shape.fileNames.Nodup := by
  refine List.nodup_flatMap.mpr ⟨fun s _ => List.nodup_cons.mpr ⟨fun hmem => ?_, ?_⟩, ?_⟩
  · obtain ⟨v, -, hname⟩ := List.mem_map.mp hmem
    exact flowLogName_ne_allocationLogName _ _ hname.symm
  · refine List.nodup_range.map_on fun v hv w hw heq => ?_
    have hid := congrArg (PairId.variant · |>.number) (PairId.allocationLogName_injective heq)
    exact UInt64.ofNat_injective_of_lt (List.mem_range.mp hv) (List.mem_range.mp hw) hid
  · refine List.nodup_range.imp_of_mem fun {s t} hs ht hne name hname hname' => hne ?_
    suffices h : ScenarioId.nth s = .nth t from
      UInt64.ofNat_injective_of_lt (List.mem_range.mp hs) (List.mem_range.mp ht)
        (congrArg ScenarioId.number h)
    rcases List.mem_cons.mp hname with rfl | hname <;>
      rcases List.mem_cons.mp hname' with heq | hname'
    · exact ScenarioId.flowLogName_injective heq
    · obtain ⟨w, -, heq⟩ := List.mem_map.mp hname'
      exact absurd heq.symm (flowLogName_ne_allocationLogName _ _)
    · obtain ⟨v, -, heq'⟩ := List.mem_map.mp hname
      rw [heq] at heq'
      exact absurd heq'.symm (flowLogName_ne_allocationLogName _ _)
    · obtain ⟨v, -, rfl⟩ := List.mem_map.mp hname
      obtain ⟨w, -, heq⟩ := List.mem_map.mp hname'
      exact congrArg PairId.scenario (PairId.allocationLogName_injective heq.symm)

/-! ## Drafts -/

namespace Draft

variable {shape : BatchShape} {s : Nat} {draft : Draft} {drafts : List Draft}

theorem Fits.map_id_variants (h : draft.Fits shape s) :
    draft.variants.map AllocationLog.id =
      (List.range shape.variantsPerScenario.toNat).map (PairId.nth s) := by
  rw [List.range_eq_range']
  refine map_eq_map_of_forall₂ h.variants fun v variant hvariant => ?_
  rw [hvariant.id_eq, h.log.scenario_eq]
  rfl

theorem Fits.map_fst_files (h : draft.Fits shape s) :
    draft.files.map Prod.fst = (ScenarioId.nth s).flowLogName ::
      (List.range shape.variantsPerScenario.toNat).map fun v =>
        (PairId.nth s v).allocationLogName := by
  have hnames : (draft.variants.map AllocationLog.file).map Prod.fst =
      (draft.variants.map AllocationLog.id).map PairId.allocationLogName := by
    rw [List.map_map, List.map_map]
    rfl
  rw [files, List.map_cons, hnames, h.map_id_variants, List.map_map]
  exact congrArg (· :: _) (congrArg ScenarioId.flowLogName h.log.scenario_eq)

/-- The drafts of a batch have the files that its shape says. -/
theorem map_fst_files
    (h : List.Forall₂ (Fits shape) (List.range' 0 shape.scenarioCount.toNat) drafts) :
    (drafts.flatMap files).map Prod.fst = shape.fileNames := by
  rw [← List.range_eq_range'] at h
  rw [List.map_flatMap]
  exact flatMap_eq_flatMap_of_forall₂ h fun s draft hfits => hfits.map_fst_files

/-- What is drawn can be stored. -/
theorem Fits.isStorable (h : draft.Fits shape s) {flow : Flow} (hflow : flow ∈ draft.log.flows) :
    flow.label.IsStorable := by
  rw [(h.log.inBlocks.fitsShape.transfer flow hflow).1]
  exact Label.isStorable_tcp

/-- Each number has its variant. -/
theorem Fits.exists_variant (h : draft.Fits shape s) {v : Nat}
    (hv : v < shape.variantsPerScenario.toNat) :
    ∃ variant, draft.variants[v]? = some variant ∧
      draft.log.IsVariant ⟨.ofNat v⟩ shape.wirelessCount.toNat variant := by
  have hnumber : (List.range' 0 shape.variantsPerScenario.toNat)[v]? = some v := by simp [hv]
  exact exists_getElem?_of_forall₂ h.variants hnumber

/-- Each variant has a number. -/
theorem Fits.isVariant (h : draft.Fits shape s) {variant : AllocationLog}
    (hvariant : variant ∈ draft.variants) :
    ∃ v, draft.log.IsVariant ⟨.ofNat v⟩ shape.wirelessCount.toNat variant := by
  obtain ⟨v, -, hdrawn⟩ := exists_mem_of_forall₂ h.variants hvariant
  exact ⟨v, hdrawn⟩

/-- Each number has its draft. -/
theorem exists_draft
    (h : List.Forall₂ (Fits shape) (List.range' 0 shape.scenarioCount.toNat) drafts)
    (hs : s < shape.scenarioCount.toNat) :
    ∃ draft, drafts[s]? = some draft ∧ draft.Fits shape s := by
  have hnumber : (List.range' 0 shape.scenarioCount.toNat)[s]? = some s := by simp [hs]
  exact exists_getElem?_of_forall₂ h hnumber

end Draft

/-! ## Reading a batch -/

section

variable {shape : BatchShape} {directory : Path} {d e : Disk} {drafts : List Draft} {draft : Draft}
  {s : Nat}
  (hdrafts : List.Forall₂ (Draft.Fits shape) (List.range' 0 shape.scenarioCount.toNat) drafts)
  (hwrote : Disk.Wrote directory d (drafts.flatMap Draft.files) e)
include hdrafts hwrote

/-- The bytes of each file are read. -/
theorem read_of_wrote {name text : String} (hfile : (name, text) ∈ drafts.flatMap Draft.files) :
    e.read (directory.join name) = .ok text.toUTF8 := by
  have hnames := Draft.map_fst_files hdrafts ▸ shape.nodup_fileNames
  obtain ⟨draft, -, hmem⟩ := List.mem_flatMap.mp hfile
  exact hwrote.read hnames (Draft.isEntryName_of_mem_files hmem) hfile

theorem readFlowLog_of_wrote (hdraft : draft ∈ drafts) (hfits : draft.Fits shape s) :
    e.readFlowLog (draft.log.pathIn directory) = .ok draft.log := by
  have hfile : draft.log.file ∈ drafts.flatMap Draft.files :=
    List.mem_flatMap.mpr ⟨draft, hdraft, List.mem_cons_self⟩
  exact Disk.readFlowLog_eq_ok (fun _ => hfits.isStorable)
    (Disk.readText_of_read (read_of_wrote hdrafts hwrote hfile))

theorem readAllocationLog_of_wrote (hdraft : draft ∈ drafts) (hfits : draft.Fits shape s)
    {variant : AllocationLog} (hvariant : variant ∈ draft.variants) :
    e.readAllocationLog (variant.pathIn directory) = .ok variant := by
  have hfile : variant.file ∈ drafts.flatMap Draft.files :=
    List.mem_flatMap.mpr ⟨draft, hdraft, List.mem_cons_of_mem _ (List.mem_map_of_mem hvariant)⟩
  obtain ⟨v, hdrawn⟩ := hfits.isVariant hvariant
  refine Disk.readAllocationLog_eq_ok (fun allocated hmem => hfits.isStorable ?_)
    (Disk.readText_of_read (read_of_wrote hdrafts hwrote hfile))
  rw [← hdrawn.flows_eq]
  exact List.mem_map_of_mem hmem

end

/-- What a batch leaves in its directory and elsewhere on the disk. -/
structure BatchShape.Stored (shape : BatchShape) (directory : Path) (d : Disk)
    (summary : BatchSummary) (e : Disk) : Prop where
  /-- Each scenario is read from its flow log, and each variant of it from its allocation log. -/
  logs : ∀ s < shape.scenarioCount.toNat, ∃ log,
    e.readFlowLog (directory.join (ScenarioId.nth s).flowLogName) = .ok log ∧
      log.scenario = .nth s ∧
      log.flows.length = shape.scenario.timeSteps.toNat * shape.scenario.flowsPerStep.toNat ∧
      ∀ v < shape.variantsPerScenario.toNat, ∃ variant,
        e.readAllocationLog (directory.join (PairId.nth s v).allocationLogName) = .ok variant ∧
          log.IsVariant ⟨.ofNat v⟩ shape.wirelessCount.toNat variant
  summary_eq : summary = {
    flowLogs := shape.scenarioCount.toNat
    allocationLogs := shape.scenarioCount.toNat * shape.variantsPerScenario.toNat
    flows := shape.scenarioCount.toNat *
      (shape.scenario.timeSteps.toNat * shape.scenario.flowsPerStep.toNat) }
  /-- Whatever has another name than the files of the batch stays. -/
  kept : ∀ place entry, (∀ name ∈ shape.fileNames, place ≠ name :: d.destination directory) →
    d.at? place = some entry → e.at? place = some entry
  /-- Nothing of another name is new but directories that the path of the output directory passes.
  -/
  added : ∀ place entry, (∀ name ∈ shape.fileNames, place ≠ name :: d.destination directory) →
    e.at? place = some entry → d.at? place = some entry ∨
      entry = .directory ∧ directory.Passes (d.start directory) place
  /-- A directory that was not there holds nothing else, except if its path leads through what it
  holds and back up. -/
  alone : d.IsTree → d.at? (d.destination directory) = none → ∀ name entry,
    e.at? (name :: d.destination directory) = some entry → name ∈ shape.fileNames ∨
      entry = .directory ∧ directory.Passes (d.start directory) (name :: d.destination directory) ∧
        .up ∈ directory.steps

variable {σ : Type} [WordSource σ] {shape : BatchShape} {directory : Path} {allow : Bool} {s s' : σ}
  {d e : Disk} {summary : BatchSummary}

theorem BatchShape.check_of_write
    (h : shape.write directory allow (s, d) = some (.ok summary, (s', e))) :
    shape.check = .ok () :=
  (write_eq_ok.mp h).1

/-- **A batch is read as it was drawn.** -/
theorem BatchShape.stored_of_write
    (h : shape.write directory allow (s, d) = some (.ok summary, (s', e))) :
    shape.Stored directory d summary e := by
  obtain ⟨d₁, drafts, hprepared, hdrafts, hwrote, hsummary⟩ :=
    ends_write (check_of_write h) allow d s _ s' e h
  have hgrows := Disk.growsBy_of_prepareOutput hprepared
  have hother : ∀ place, (∀ name ∈ shape.fileNames, place ≠ name :: d.destination directory) →
      e.at? place = d₁.at? place := by
    intro place hplace
    rw [hwrote.eq, hgrows.destination_eq]
    refine Disk.at?_putFiles_of_ne fun file hfile => hplace file.1 ?_
    rw [← Draft.map_fst_files hdrafts]
    exact List.mem_map_of_mem hfile
  refine ⟨fun number hnumber => ?logs, hsummary, fun place entry hplace hentry => ?kept,
    fun place entry hplace hentry => ?added, fun htree hnone name entry hentry => ?alone⟩
  case logs =>
    obtain ⟨draft, hdraft, hfits⟩ := Draft.exists_draft hdrafts hnumber
    have hdraft := List.mem_of_getElem? hdraft
    have hread := readFlowLog_of_wrote hdrafts hwrote hdraft hfits
    rw [FlowLog.pathIn, hfits.log.scenario_eq] at hread
    refine ⟨draft.log, hread, hfits.log.scenario_eq, hfits.log.inBlocks.length_eq, fun v hv => ?_⟩
    obtain ⟨variant, hvariant, hdrawn⟩ := hfits.exists_variant hv
    have hread := readAllocationLog_of_wrote hdrafts hwrote hdraft hfits
      (List.mem_of_getElem? hvariant)
    rw [AllocationLog.pathIn, hdrawn.id_eq, hfits.log.scenario_eq] at hread
    exact ⟨variant, hread, hdrawn⟩
  case kept =>
    rw [hother place hplace]
    exact hgrows.at?_eq place entry hentry
  case added =>
    rw [hother place hplace] at hentry
    exact hgrows.only place entry hentry
  case alone =>
    by_cases hname : name ∈ shape.fileNames
    · exact .inl hname
    · have hplace : ∀ other ∈ shape.fileNames,
          name :: d.destination directory ≠ other :: d.destination directory := by
        rintro other hmem heq
        obtain ⟨rfl, -⟩ := List.cons.inj heq
        exact hname hmem
      rw [hother _ hplace] at hentry
      exact .inr (htree.of_prepareOutput hnone hprepared hentry)

/-! ## A small batch -/

namespace BatchShape

/-- One flow between two racks, in a scenario with one variant, in which it is wireless. -/
def twoRacks : BatchShape :=
  { scenario := { rackCount := 2, flowsPerStep := 1 }
    variantsPerScenario := 1, wirelessCount := 1 }

/-- What can be drawn to this shape for the scenario with a given number. -/
def twoRacksDraft (number : Nat) : Draft := twoRacks.draftOf number [[0]] [[0]]

theorem drawDraft_twoRacks (number : Nat) {s t u : SplitMix}
    (hpair : Draw.samples 2 1 1 s = some ([[0]], t))
    (hplace : Draw.samples 1 1 1 t = some ([[0]], u)) :
    twoRacks.scenario.drawDraft 1 1 number s = some (.ok (twoRacksDraft number), u) :=
  twoRacks.drawDraft_of_samples number (by decide) (by decide) hpair (by decide) hplace

/-- What a small source yields. -/
theorem drawDraft_zero_twoRacks : twoRacks.scenario.drawDraft 1 1 0 (⟨0⟩ : SplitMix) =
    some (.ok (twoRacksDraft 0), ⟨1663341875487337577⟩) := by
  refine drawDraft_twoRacks 0 (t := ⟨15755400384260043839⟩) ?_ ?_
  all_goals
    rw [Draw.samples, Draw.sample_eq_sampleOnePass (by decide) (by decide)]
    cbv

/-- What it yields after this. -/
theorem drawDraft_one_twoRacks :
    twoRacks.scenario.drawDraft 1 1 1 (⟨1663341875487337577⟩ : SplitMix) =
      some (.ok (twoRacksDraft 1), ⟨10372713005361028285⟩) := by
  refine drawDraft_twoRacks 1 (t := ⟨6018027440424182931⟩) ?_ ?_
  all_goals
    rw [Draw.samples, Draw.sample_eq_sampleOnePass (by decide) (by decide)]
    cbv

/-- A disk with nothing on it. -/
def blankDisk : Disk := ⟨∅, []⟩

/-- This disk after a directory for the batch has been made. -/
def preparedDisk (directory : Path) : Disk := (Disk.prepareOutput directory false blankDisk).2

/-- This disk with the files of the batch in the directory. -/
def twoRacksDisk (directory : Path) : Disk :=
  (Disk.writeFiles directory (twoRacksDraft 0).files (preparedDisk directory)).2

/-- The batch is written, if the disk lets it. -/
theorem write_twoRacks (hprepared : (Disk.prepareOutput directory false blankDisk).1 = .ok ())
    (hwrite : (Disk.writeFiles directory (twoRacksDraft 0).files (preparedDisk directory)).1 =
      .ok ()) :
    twoRacks.write directory false ((⟨0⟩ : SplitMix), blankDisk) =
      some (.ok ⟨1, 1, 1⟩, (⟨1663341875487337577⟩, twoRacksDisk directory)) := by
  have hdrafts : twoRacks.scenario.drawDrafts 1 1 1 0 (⟨0⟩ : SplitMix) =
      some (.ok [twoRacksDraft 0], ⟨1663341875487337577⟩) :=
    bind_eq_some_ok.mpr ⟨_, _, drawDraft_zero_twoRacks, rfl⟩
  have hfiles : Disk.writeFiles directory (twoRacksDraft 0).files (preparedDisk directory) =
      (.ok (), twoRacksDisk directory) := Prod.ext hwrite rfl
  exact write_eq_ok.mpr ⟨by decide, preparedDisk directory, Prod.ext hprepared rfl,
    writeScenarios_eq_ok.mpr ⟨_, hdrafts, hfiles, rfl⟩⟩

theorem stored_of_write_twoRacks : ∃ s' e,
    twoRacks.write ⟨"o"⟩ false ((⟨0⟩ : SplitMix), blankDisk) = some (.ok ⟨1, 1, 1⟩, (s', e)) ∧
      twoRacks.Stored ⟨"o"⟩ blankDisk ⟨1, 1, 1⟩ e := by
  have hwrite := @write_twoRacks ⟨"o"⟩ (by decide +kernel) (by decide +kernel)
  exact ⟨_, _, hwrite, stored_of_write hwrite⟩

/-- A directory that is made by a path through another one and back up is not alone. -/
theorem write_twoRacks_upwards : ∃ s' e,
    twoRacks.write ⟨"y/x/.."⟩ false ((⟨0⟩ : SplitMix), blankDisk) =
        some (.ok ⟨1, 1, 1⟩, (s', e)) ∧
      blankDisk.at? (blankDisk.destination ⟨"y/x/.."⟩) = none ∧ "x" ∉ twoRacks.fileNames ∧
        e.at? ("x" :: blankDisk.destination ⟨"y/x/.."⟩) = some .directory := by
  have hwrite := @write_twoRacks ⟨"y/x/.."⟩ (by decide +kernel) (by decide +kernel)
  exact ⟨_, _, hwrite, by decide +kernel, by decide +kernel, by decide +kernel⟩

end BatchShape

end RackTraffic
