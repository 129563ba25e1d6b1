import RackTraffic.Proofs.Scenario.Stored

/-!
# Growing a batch only appends

**Theorem (`BatchShape.write_grows`).** Two batches that differ in the number of their scenarios and
start from the same state of the source write the same files for the scenarios that they share,
wherever they write them, and after these scenarios their sources are in the same state.

The larger batch writes the scenarios that are shared before the others (`writeScenarios_add`),
under names that the others do not have. So both batches have written the files of the same drafts,
because from one state of the source nothing else can be drawn.
-/

namespace RackTraffic

variable {σ : Type} [WordSource σ]

variable {directory : Path} {d e : Disk} {s s' : σ}

namespace BatchShape

variable {shape : BatchShape}

/-- Some scenarios of a batch are written before the others. -/
theorem writeScenarios_add (count more first : Nat) (summary : BatchSummary) :
    (shape.writeScenarios directory (count + more) first summary : Batch σ BatchSummary) =
      shape.writeScenarios directory count first summary >>=
        shape.writeScenarios directory more (first + count) := by
  induction count generalizing first summary with
  | zero => rw [Nat.zero_add, Nat.add_zero, writeScenarios, pure_bind]
  | succ count ih =>
    rw [Nat.succ_add, writeScenarios, writeScenarios, bind_assoc]
    simp only [ih, Nat.add_assoc, Nat.add_comm 1 count]

/-! ## Two batches -/

theorem flowLogName_nth_mem_fileNames {i : Nat} (hi : i < shape.scenarioCount.toNat) :
    (ScenarioId.nth i).flowLogName ∈ shape.fileNames :=
  List.mem_flatMap.mpr ⟨i, List.mem_range.mpr hi, List.mem_cons_self⟩

theorem allocationLogName_nth_mem_fileNames {i v : Nat} (hi : i < shape.scenarioCount.toNat)
    (hv : v < shape.variantsPerScenario.toNat) :
    (PairId.nth i v).allocationLogName ∈ shape.fileNames :=
  List.mem_flatMap.mpr ⟨i, List.mem_range.mpr hi,
    List.mem_cons_of_mem _ (List.mem_map_of_mem (List.mem_range.mpr hv))⟩

end BatchShape

/-- The same bytes are read from a file on one disk and from a file on another one. -/
def Disk.SameFile (d : Disk) (path : Path) (e : Disk) (path' : Path) : Prop :=
  ∃ contents, d.read path = .ok contents ∧ e.read path' = .ok contents

/-- If one batch has the drafts of another one and more, then the files of the other batch are the
same in both. -/
theorem Draft.sameFile_of_wrote {large small : BatchShape} {drafts others : List Draft}
    {directory directory' : Path} {d d' e e' : Disk}
    (hlarge : List.Forall₂ (Fits large) (List.range' 0 large.scenarioCount.toNat)
      (drafts ++ others))
    (hsmall : List.Forall₂ (Fits small) (List.range' 0 small.scenarioCount.toNat) drafts)
    (hwrote : Disk.Wrote directory d ((drafts ++ others).flatMap files) e)
    (hwrote' : Disk.Wrote directory' d' (drafts.flatMap files) e')
    {name : String} (hname : name ∈ small.fileNames) :
    e.SameFile (directory.join name) e' (directory'.join name) := by
  rw [← map_fst_files hsmall] at hname
  obtain ⟨⟨name, text⟩, hfile, rfl⟩ := List.mem_map.mp hname
  have hfile' : (name, text) ∈ (drafts ++ others).flatMap files := by
    rw [List.flatMap_append]
    exact List.mem_append_left _ hfile
  exact ⟨text.toUTF8, read_of_wrote hlarge hwrote hfile', read_of_wrote hsmall hwrote' hfile⟩

namespace BatchShape

/-- **Growing a batch only appends.** If a batch of a shape ends well with some number of scenarios
and also with a smaller one, from the same state of the source, then every file that the smaller
batch has is the same in both, in whatever directories and on whatever disks they are. The larger
batch first writes as many scenarios as the smaller one has, and then its source is in the state
that the smaller batch ends in. -/
theorem write_grows {shape : BatchShape} {m n : UInt64} (hle : m ≤ n) {directory directory' : Path}
    {allow allow' : Bool} {s t t' : σ} {d d' e e' : Disk} {summary summary' : BatchSummary}
    (hlarge : { shape with scenarioCount := n }.write directory allow (s, d) =
      some (.ok summary, (t, e)))
    (hsmall : { shape with scenarioCount := m }.write directory' allow' (s, d') =
      some (.ok summary', (t', e'))) :
    (∀ i < m.toNat,
      e.SameFile (directory.join (ScenarioId.nth i).flowLogName)
        e' (directory'.join (ScenarioId.nth i).flowLogName) ∧
      ∀ v < shape.variantsPerScenario.toNat,
        e.SameFile (directory.join (PairId.nth i v).allocationLogName)
          e' (directory'.join (PairId.nth i v).allocationLogName)) ∧
    ∃ d₁ e₁ summary₁, Disk.prepareOutput directory allow d = (.ok (), d₁) ∧
      { shape with scenarioCount := n }.writeScenarios directory m.toNat 0 {} (s, d₁) =
        some (.ok summary₁, (t', e₁)) ∧
      { shape with scenarioCount := n }.writeScenarios directory (n.toNat - m.toNat) m.toNat
        summary₁ (t', e₁) = some (.ok summary, (t, e)) := by
  obtain ⟨hcheck, d₁, hprepared, hwrite⟩ := write_eq_ok.mp hlarge
  obtain ⟨hcheck', d₁', -, hwrite'⟩ := write_eq_ok.mp hsmall
  -- The larger batch is divided after the scenarios that the smaller one has.
  have hsum : m.toNat + (n.toNat - m.toNat) = n.toNat :=
    Nat.add_sub_cancel' (UInt64.le_iff_toNat_le.mp hle)
  dsimp only at hwrite hwrite'
  rw [← hsum, writeScenarios_add, Nat.zero_add] at hwrite
  obtain ⟨summary₁, ⟨t₁, e₁⟩, hshared, hmore⟩ := bind_eq_some_ok.mp hwrite
  obtain ⟨drafts, hdrafts, hfits, hwrote⟩ := exists_drafts_of_writeScenarios hcheck hshared
  obtain ⟨others, -, hothers, hwroteOthers⟩ := exists_drafts_of_writeScenarios hcheck hmore
  obtain ⟨drafts', hdrafts', hfits', hwrote'⟩ := exists_drafts_of_writeScenarios hcheck' hwrite'
  -- Both batches have drawn the same drafts.
  obtain ⟨rfl, rfl⟩ : drafts = drafts' ∧ t₁ = t' := by
    have heq := hdrafts.symm.trans hdrafts'
    cases heq
    exact ⟨rfl, rfl⟩
  have hnumbers : List.range' 0 m.toNat ++ List.range' m.toNat (n.toNat - m.toNat) =
      List.range' 0 n.toNat := by
    have happend := @List.range'_append_1 0 m.toNat (n.toNat - m.toNat)
    rwa [Nat.zero_add, hsum] at happend
  have hall : List.Forall₂ (Draft.Fits { shape with scenarioCount := n }) (List.range' 0 n.toNat)
      (drafts ++ others) := hnumbers ▸ List.rel_append hfits hothers
  have hwroteAll : Disk.Wrote directory d₁ ((drafts ++ others).flatMap Draft.files) e :=
    List.flatMap_append ▸ hwrote.append hwroteOthers
  refine ⟨fun i hi => ⟨?flowLog, fun v hv => ?allocationLog⟩, d₁, e₁, summary₁, hprepared, hshared,
    hmore⟩
  case flowLog =>
    exact Draft.sameFile_of_wrote hall hfits' hwroteAll hwrote' (flowLogName_nth_mem_fileNames hi)
  case allocationLog =>
    exact Draft.sameFile_of_wrote hall hfits' hwroteAll hwrote'
      (allocationLogName_nth_mem_fileNames hi hv)

/-- A second scenario does not change the first one, which another batch writes elsewhere. -/
theorem write_grows_twoRacks : ∃ t t' e e',
    { twoRacks with scenarioCount := 2 }.write ⟨"o"⟩ true ((⟨0⟩ : SplitMix), fileAndDirectory) =
        some (.ok ⟨2, 2, 2⟩, (t, e)) ∧
      { twoRacks with scenarioCount := 1 }.write ⟨"y"⟩ false ((⟨0⟩ : SplitMix), blankDisk) =
        some (.ok ⟨1, 1, 1⟩, (t', e')) ∧
      e.SameFile ⟨"o/flows__0.dat"⟩ e' ⟨"y/flows__0.dat"⟩ ∧
      e.SameFile ⟨"o/alloc__0_0.dat"⟩ e' ⟨"y/alloc__0_0.dat"⟩ ∧
      ∃ e₁ summary₁,
        { twoRacks with scenarioCount := 2 }.writeScenarios ⟨"o"⟩ 1 1 summary₁ (t', e₁) =
        some (.ok ⟨2, 2, 2⟩, (t, e)) := by
  have hsmall := @write_twoRacks ⟨"y"⟩ (by decide +kernel) (by decide +kernel)
  have hprepared : Disk.prepareOutput ⟨"o"⟩ true fileAndDirectory = (.ok (), fileAndDirectory) := by
    rw [Disk.prepareOutput_apply, if_pos (by decide +kernel), if_neg (by decide +kernel),
      if_neg (by decide)]
  have hdrafts : twoRacks.scenario.drawDrafts 1 1 2 0 (⟨0⟩ : SplitMix) =
      some (.ok [twoRacksDraft 0, twoRacksDraft 1], ⟨10372713005361028285⟩) :=
    bind_eq_some_ok.mpr ⟨_, _, drawDraft_zero_twoRacks, bind_eq_some_ok.mpr
      ⟨_, _, bind_eq_some_ok.mpr ⟨_, _, drawDraft_one_twoRacks, rfl⟩, rfl⟩⟩
  have hwrite : (Disk.writeFiles ⟨"o"⟩ ([twoRacksDraft 0, twoRacksDraft 1].flatMap Draft.files)
      fileAndDirectory).1 = .ok () := by decide +kernel
  obtain ⟨e, hfiles⟩ := DiskAction.exists_eq_ok hwrite
  have hlarge : { twoRacks with scenarioCount := 2 }.write ⟨"o"⟩ true
      ((⟨0⟩ : SplitMix), fileAndDirectory) = some (.ok ⟨2, 2, 2⟩, (⟨10372713005361028285⟩, e)) :=
    write_eq_ok.mpr ⟨by decide, fileAndDirectory, hprepared,
      writeScenarios_eq_ok.mpr ⟨_, hdrafts, hfiles, rfl⟩⟩
  obtain ⟨hshared, d₁, e₁, summary₁, -, -, hmore⟩ := write_grows (by decide) hlarge hsmall
  obtain ⟨hlog, hvariants⟩ := hshared 0 (by decide)
  exact ⟨_, _, e, _, hlarge, hsmall, hlog, hvariants 0 (by decide), e₁, summary₁, hmore⟩

end BatchShape

end RackTraffic
