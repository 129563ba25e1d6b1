import Mathlib.Data.List.Sort
import Mathlib.Order.Basic
import RackTraffic.Proofs.Disk.Basic
import RackTraffic.Proofs.Traffic.Name
import RackTraffic.Traffic.Listing

/-!
# Listings are complete and in order

The listing of a kind of files in a directory holds each file of this kind once: a key is listed if
and only if the file with its name is there (`mem_listing`), and it is listed with the path to that
file. The keys strictly increase (`IsListable.listing_increasing`), in the order of scenarios and in
that of pairs. So the listing is known if it is known which files are there
(`Disk.allocationLogs_of_fileAt`).

What this rests on is the same for flow logs, allocation logs and results (`IsListable`): each key
has a name of its own, by which the file is recognised, and the entries are sorted by an order of
the keys.
-/

namespace RackTraffic

/-! ## The orders -/

instance : LT ScenarioId := ⟨fun a b => a.number < b.number⟩

/-- Pairs are in the order of their scenarios, and those of one scenario in that of their
variants. -/
instance : LT PairId := ⟨fun a b => a.scenario < b.scenario ∨
  a.scenario = b.scenario ∧ a.variant.number < b.variant.number⟩

instance (a b : ScenarioId) : Decidable (a < b) :=
  inferInstanceAs (Decidable (a.number < b.number))

instance (a b : PairId) : Decidable (a < b) :=
  inferInstanceAs (Decidable (a.scenario < b.scenario ∨
    a.scenario = b.scenario ∧ a.variant.number < b.variant.number))

theorem ScenarioId.lt_def {a b : ScenarioId} : a < b ↔ a.number.toNat < b.number.toNat := by
  rw [← UInt64.lt_iff_toNat_lt]
  rfl

theorem ScenarioId.eq_iff_toNat {a b : ScenarioId} : a = b ↔ a.number.toNat = b.number.toNat := by
  rw [UInt64.toNat_inj]
  exact ⟨fun h => by rw [h], fun h => by cases a; cases b; simp_all⟩

theorem PairId.lt_def {a b : PairId} : a < b ↔ a.scenario < b.scenario ∨
    a.scenario = b.scenario ∧ a.variant.number.toNat < b.variant.number.toNat := by
  rw [← UInt64.lt_iff_toNat_lt]
  rfl

theorem ScenarioId.lt_asymm {a b : ScenarioId} (h : a < b) : ¬b < a := by
  rw [lt_def] at h ⊢
  omega

theorem PairId.lt_asymm {a b : PairId} (h : a < b) : ¬b < a := by
  simp only [lt_def, ScenarioId.lt_def, ScenarioId.eq_iff_toNat] at h ⊢
  omega

instance : Std.Asymm fun a b : ScenarioId => a < b := ⟨fun _ _ => ScenarioId.lt_asymm⟩

instance : Std.Asymm fun a b : PairId => a < b := ⟨fun _ _ => PairId.lt_asymm⟩

theorem ScenarioId.lt_irrefl (s : ScenarioId) : ¬s < s := fun h => lt_asymm h h

theorem PairId.lt_irrefl (id : PairId) : ¬id < id := fun h => lt_asymm h h

theorem PairId.scenario_lt_or_eq {a b : PairId} (h : a < b) :
    a.scenario < b.scenario ∨ a.scenario = b.scenario :=
  (lt_def.mp h).imp_right And.left

theorem ScenarioId.le_iff {a b : ScenarioId} : a.le b = true ↔ a < b ∨ a = b := by
  rw [lt_def, eq_iff_toNat, ScenarioId.le, decide_eq_true_eq, UInt64.le_iff_toNat_le]
  omega

theorem PairId.le_iff {a b : PairId} : a.le b = true ↔ a < b ∨ a = b := by
  obtain ⟨s, v⟩ := a
  obtain ⟨s', v'⟩ := b
  simp only [PairId.le, lt_def, ScenarioId.lt_def, Bool.or_eq_true, Bool.and_eq_true,
    decide_eq_true_eq, beq_iff_eq, UInt64.lt_iff_toNat_lt, UInt64.le_iff_toNat_le,
    ← UInt64.toNat_inj, PairId.mk.injEq, ScenarioId.eq_iff_toNat]
  have hv : v = v' ↔ v.number.toNat = v'.number.toNat := by
    rw [UInt64.toNat_inj]
    exact ⟨fun h => by rw [h], fun h => by cases v; cases v'; simp_all⟩
  rw [hv]
  omega

theorem ScenarioId.le_trans (a b c : ScenarioId) (hab : a.le b) (hbc : b.le c) : a.le c := by
  simp only [ScenarioId.le, decide_eq_true_eq, UInt64.le_iff_toNat_le] at *
  omega

theorem ScenarioId.le_total (a b : ScenarioId) : (a.le b || b.le a) = true := by
  simp only [ScenarioId.le, Bool.or_eq_true, decide_eq_true_eq, UInt64.le_iff_toNat_le]
  omega

theorem PairId.le_trans (a b c : PairId) (hab : a.le b) (hbc : b.le c) : a.le c := by
  simp only [PairId.le, Bool.or_eq_true, Bool.and_eq_true, decide_eq_true_eq, beq_iff_eq,
    UInt64.lt_iff_toNat_lt, UInt64.le_iff_toNat_le, ← UInt64.toNat_inj] at *
  omega

theorem PairId.le_total (a b : PairId) : (a.le b || b.le a) = true := by
  simp only [PairId.le, Bool.or_eq_true, Bool.and_eq_true, decide_eq_true_eq, beq_iff_eq,
    UInt64.lt_iff_toNat_lt, UInt64.le_iff_toNat_le, ← UInt64.toNat_inj]
  omega

theorem PairId.lt_trichotomy (a b : PairId) : a < b ∨ a = b ∨ b < a := by
  have htotal := le_total a b
  rw [Bool.or_eq_true, le_iff, le_iff] at htotal
  tauto

/-! ## The entries of a directory -/

/-- There is a regular file with a given name among the entries of a directory. -/
def HoldsFile (entries : List (String × Entry)) (name : String) : Prop :=
  ∃ entry, (name, entry) ∈ entries ∧ entry.isFile

/-- What the names of the regular files among the entries of a directory say, where they are
recognised. -/
def fileKeys {κ : Type} (recognise : String → Option κ) (entries : List (String × Entry)) :
    List κ :=
  entries.filterMap fun (name, entry) => if entry.isFile then recognise name else none

theorem holdsFile_iff {name : String} :
    HoldsFile entries name ↔
      ∃ contents executable, (name, .file contents executable) ∈ entries := by
  constructor
  · rintro ⟨_ | ⟨contents, executable⟩, hmem, hfile⟩
    · cases hfile
    · exact ⟨contents, executable, hmem⟩
  · rintro ⟨contents, executable, hmem⟩
    exact ⟨_, hmem, rfl⟩

theorem holdsFile_children {d : Disk} {place : Place} {name : String} :
    HoldsFile (d.children place) name ↔ d.FileAt (name :: place) := by
  simp only [HoldsFile, Disk.FileAt, Disk.mem_children]

/-! ## Any kind of files -/

section

variable {κ : Type} {le : κ → κ → Bool} {recognise : String → Option κ} {nameOf : κ → String}
  {directory : Path} {entries : List (String × Entry)}

theorem mem_fileKeys (hname : ∀ name key, recognise name = some key ↔ nameOf key = name)
    {key : κ} : key ∈ fileKeys recognise entries ↔ HoldsFile entries (nameOf key) := by
  rw [fileKeys, List.mem_filterMap]
  constructor
  · rintro ⟨⟨name, entry⟩, hmem, h⟩
    rw [Option.ite_none_right_eq_some, hname] at h
    obtain ⟨hfile, rfl⟩ := h
    exact ⟨entry, hmem, hfile⟩
  · rintro ⟨entry, hmem, hfile⟩
    exact ⟨(nameOf key, entry), hmem, by simp [hfile, (hname _ key).mpr rfl]⟩

/-- The keys of a listing are those of the files, in another order. -/
theorem map_fst_listing_perm (entries : List (String × Entry)) :
    ((listing le recognise directory entries).map Prod.fst).Perm (fileKeys recognise entries) := by
  refine ((List.mergeSort_perm _ _).map Prod.fst).trans (.of_eq ?_)
  rw [List.map_filterMap, fileKeys]
  refine List.filterMap_congr fun ⟨name, entry⟩ _ => ?_
  dsimp only
  split_ifs
  · cases recognise name <;> rfl
  · rfl

/-- A file is listed with the path to it. -/
theorem listing_eq_map (hname : ∀ name key, recognise name = some key ↔ nameOf key = name)
    (entries : List (String × Entry)) : listing le recognise directory entries =
      ((listing le recognise directory entries).map Prod.fst).map fun key =>
        (key, directory.join (nameOf key)) := by
  rw [List.map_map]
  refine (List.map_id _).symm.trans (List.map_congr_left fun file hfile => ?_)
  rw [listing, List.mem_mergeSort, List.mem_filterMap] at hfile
  obtain ⟨⟨name, entry⟩, -, h⟩ := hfile
  simp only [Option.ite_none_right_eq_some, Option.map_eq_some_iff] at h
  obtain ⟨-, key, hkey, rfl⟩ := h
  rw [hname] at hkey
  simp [hkey]

/-- What is listed is what is there. -/
theorem mem_listing (hname : ∀ name key, recognise name = some key ↔ nameOf key = name)
    {key : κ} {path : Path} :
    (key, path) ∈ listing le recognise directory entries ↔
      HoldsFile entries (nameOf key) ∧ path = directory.join (nameOf key) := by
  rw [listing_eq_map hname, List.mem_map, ← mem_fileKeys hname]
  constructor
  · rintro ⟨key', hmem, h⟩
    cases h
    exact ⟨(map_fst_listing_perm _).mem_iff.mp hmem, rfl⟩
  · rintro ⟨hmem, rfl⟩
    exact ⟨key, (map_fst_listing_perm _).mem_iff.mpr hmem, rfl⟩

/-- A kind of files that can be listed. -/
structure IsListable {κ : Type} [LT κ] (le : κ → κ → Bool) (recognise : String → Option κ)
    (nameOf : κ → String) : Prop where
  /-- The file of a key is recognised by its name and by no other. -/
  recognise_eq_some : ∀ name key, recognise name = some key ↔ nameOf key = name
  le_iff : ∀ a b, le a b = true ↔ a < b ∨ a = b
  le_trans : ∀ a b c, le a b → le b c → le a c
  le_total : ∀ a b, (le a b || le b a) = true

namespace IsListable

variable [LT κ] (h : IsListable le recognise nameOf)
include h

/-- No key is listed twice, and the keys are in order. -/
theorem listing_increasing (hentries : entries.Pairwise fun a b => a.1 ≠ b.1) :
    (listing le recognise directory entries).Pairwise fun a b => a.1 < b.1 := by
  have hsorted : (listing le recognise directory entries).Pairwise fun a b => le a.1 b.1 :=
    List.pairwise_mergeSort (fun a b c => h.le_trans a.1 b.1 c.1) (fun a b => h.le_total a.1 b.1) _
  have hdistinct : (listing le recognise directory entries).Pairwise fun a b => a.1 ≠ b.1 := by
    -- Different entries have different names, and a key gives its name back.
    refine List.Pairwise.perm ?_ (List.mergeSort_perm _ _).symm fun {a b} h => h.symm
    rw [List.pairwise_filterMap]
    refine hentries.imp fun {p q} hne a ha b hb heq => hne ?_
    simp only [Option.ite_none_right_eq_some, Option.map_eq_some_iff] at ha hb
    obtain ⟨-, k, hk, rfl⟩ := ha
    obtain ⟨-, l, hl, rfl⟩ := hb
    rw [h.recognise_eq_some] at hk hl
    rw [← hk, ← hl]
    exact congrArg nameOf heq
  exact (hsorted.and hdistinct).imp fun {_ _} hle => ((h.le_iff _ _).mp hle.1).resolve_right hle.2

/-- The files of a kind, in the order of their keys. -/
theorem exists_keys (directory : Path) (hentries : entries.Pairwise fun a b => a.1 ≠ b.1) :
    ∃ keys : List κ, listing le recognise directory entries =
        keys.map (fun key => (key, directory.join (nameOf key))) ∧
      keys.Pairwise (· < ·) ∧ keys.Perm (fileKeys recognise entries) :=
  ⟨_, listing_eq_map h.recognise_eq_some entries,
    List.pairwise_map.mpr (h.listing_increasing hentries), map_fst_listing_perm _⟩

/-- What is listed depends on the files of the kind and on nothing else that is there. -/
theorem listing_congr [Std.Asymm fun a b : κ => a < b] {others : List (String × Entry)}
    (hentries : entries.Pairwise fun a b => a.1 ≠ b.1)
    (hothers : others.Pairwise fun a b => a.1 ≠ b.1)
    (hfiles : ∀ key, HoldsFile others (nameOf key) ↔ HoldsFile entries (nameOf key)) :
    listing le recognise directory others = listing le recognise directory entries := by
  obtain ⟨keys, heq, hsorted, hperm⟩ := h.exists_keys directory hentries
  obtain ⟨keys', heq', hsorted', hperm'⟩ := h.exists_keys directory hothers
  have hkeys : keys' = keys := by
    refine hsorted'.eq_of_mem_iff hsorted fun key => ?_
    rw [hperm'.mem_iff, hperm.mem_iff, mem_fileKeys h.recognise_eq_some,
      mem_fileKeys h.recognise_eq_some]
    exact hfiles key
  rw [heq, heq', hkeys]

end IsListable

end

/-! ## Logs and results -/

theorem isListable_flowLog :
    IsListable ScenarioId.le ScenarioId.ofFlowLogName? ScenarioId.flowLogName :=
  ⟨fun _ _ => ScenarioId.ofFlowLogName?_eq_some, fun _ _ => ScenarioId.le_iff, ScenarioId.le_trans,
    ScenarioId.le_total⟩

theorem isListable_allocationLog :
    IsListable PairId.le PairId.ofAllocationLogName? PairId.allocationLogName :=
  ⟨fun _ _ => PairId.ofAllocationLogName?_eq_some, fun _ _ => PairId.le_iff, PairId.le_trans,
    PairId.le_total⟩

theorem isListable_result : IsListable PairId.le PairId.ofResultName? PairId.resultName :=
  ⟨fun _ _ => PairId.ofResultName?_eq_some, fun _ _ => PairId.le_iff, PairId.le_trans,
    PairId.le_total⟩

theorem flowLogs_increasing (d : Disk) (place : Place) (directory : Path) :
    (listing ScenarioId.le ScenarioId.ofFlowLogName? directory (d.children place)).Pairwise
      fun a b => a.1 < b.1 :=
  isListable_flowLog.listing_increasing (d.pairwise_children place)

theorem allocationLogs_increasing (d : Disk) (place : Place) (directory : Path) :
    (listing PairId.le PairId.ofAllocationLogName? directory (d.children place)).Pairwise
      fun a b => a.1 < b.1 :=
  isListable_allocationLog.listing_increasing (d.pairwise_children place)

namespace Disk

variable {d : Disk} {directory : Path} {place : Place} {entries : List (String × Entry)}

/-- An operating system lists no name twice. -/
theorem pairwise_of_list (hlist : d.list directory = .ok entries) :
    entries.Pairwise fun a b => a.1 ≠ b.1 := by
  obtain ⟨place, -, rfl⟩ := list_eq_ok.mp hlist
  exact d.pairwise_children place

/-- The allocation logs of a directory, in the order of their pairs. -/
theorem exists_allocationLogs (hlist : d.list directory = .ok entries) : ∃ ids : List PairId,
    d.allocationLogs directory =
        .ok (ids.map fun id => (id, directory.join id.allocationLogName)) ∧
      ids.Pairwise (· < ·) ∧ ids.Perm (fileKeys PairId.ofAllocationLogName? entries) := by
  obtain ⟨ids, hids, h⟩ := isListable_allocationLog.exists_keys directory (pairwise_of_list hlist)
  exact ⟨ids, by rw [allocationLogs, hlist, Except.map, hids], h⟩

/-- The results of a directory, in the order of their pairs. -/
theorem exists_results (hlist : d.list directory = .ok entries) : ∃ ids : List PairId,
    d.results directory = .ok (ids.map fun id => (id, directory.join id.resultName)) ∧
      ids.Pairwise (· < ·) ∧ ids.Perm (fileKeys PairId.ofResultName? entries) := by
  obtain ⟨ids, hids, h⟩ := isListable_result.exists_keys directory (pairwise_of_list hlist)
  exact ⟨ids, by rw [results, hlist, Except.map, hids], h⟩

/-- The listing of a directory in which the allocation logs of given pairs are. -/
theorem allocationLogs_of_fileAt {ids : List PairId}
    (hfind : d.find directory = .ok (place, .directory)) (hids : ids.Pairwise (· < ·))
    (hfiles : ∀ id : PairId, d.FileAt (id.allocationLogName :: place) ↔ id ∈ ids) :
    d.allocationLogs directory =
      .ok (ids.map fun id => (id, directory.join id.allocationLogName)) := by
  obtain ⟨found, hfound, hsorted, hperm⟩ :=
    exists_allocationLogs (list_eq_ok.mpr ⟨place, hfind, rfl⟩)
  have heq : found = ids := by
    refine hsorted.eq_of_mem_iff hids fun id => ?_
    rw [hperm.mem_iff, mem_fileKeys fun _ _ => PairId.ofAllocationLogName?_eq_some,
      holdsFile_children, hfiles]
  rw [hfound, heq]

end Disk

end RackTraffic
