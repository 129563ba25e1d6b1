import RackTraffic.Proofs.Traffic.Listing

/-!
# What a listing depends on

**Theorem (`Disk.listings_exact`).** The flow logs, the allocation logs and the results of a
directory are listed with the numbers in their names, in the order of these numbers and each once. A
listing holds just the regular files whose names are the ones made for their numbers. The order in
which the operating system returns the entries does not matter, and neither do directories and files
with other names, such as other spellings of a number (`ListsExactly`).

A list in order is known by its members. So two sets of entries with the same files of a kind have
the same listing (`IsListable.listing_congr`), and those of one directory in two orders are a case
of this.
-/

namespace RackTraffic

variable {κ : Type} {le : κ → κ → Bool} {recognise : String → Option κ} {nameOf : κ → String}
  {d : Disk} {directory : Path} {entries : List (String × Entry)}

/-- A list says exactly which files of a kind are among the entries of a directory. -/
structure ListsExactly [LT κ] (le : κ → κ → Bool) (recognise : String → Option κ)
    (nameOf : κ → String) (directory : Path) (entries : List (String × Entry))
    (files : List (κ × Path)) : Prop where
  increasing : files.Pairwise fun a b => a.1 < b.1
  mem_iff : ∀ key path, (key, path) ∈ files ↔
    HoldsFile entries (nameOf key) ∧ path = directory.join (nameOf key)
  /-- The entries may be returned in any order. -/
  any_order : ∀ order : List (String × Entry), order.Perm entries →
    listing le recognise directory order = files
  /-- There may be anything else beside the files of the kind. -/
  any_others : ∀ others : List (String × Entry), (others.Pairwise fun a b => a.1 ≠ b.1) →
    (∀ key, HoldsFile others (nameOf key) ↔ HoldsFile entries (nameOf key)) →
      listing le recognise directory others = files

/-- The same names are there in another order. -/
theorem HoldsFile.perm_iff {order : List (String × Entry)} (h : order.Perm entries)
    {name : String} :
    HoldsFile order name ↔ HoldsFile entries name :=
  exists_congr fun _ => and_congr_left fun _ => h.mem_iff

theorem IsListable.listsExactly [LT κ] [Std.Asymm fun a b : κ => a < b]
    (h : IsListable le recognise nameOf) (hentries : entries.Pairwise fun a b => a.1 ≠ b.1) :
    ListsExactly le recognise nameOf directory entries
      (listing le recognise directory entries) where
  increasing := h.listing_increasing hentries
  mem_iff _ _ := mem_listing h.recognise_eq_some
  any_order order horder := by
    have hnames : order.Pairwise fun a b => a.1 ≠ b.1 :=
      hentries.perm horder.symm fun {_ _} hne => hne.symm
    exact h.listing_congr hentries hnames fun key => HoldsFile.perm_iff horder
  any_others _ hothers hfiles := h.listing_congr hentries hothers hfiles

namespace Disk

/-- **Listings are exact**, and they depend on nothing but the files that they list. -/
theorem listings_exact (hlist : d.list directory = .ok entries) :
    (∃ files, d.flowLogs directory = .ok files ∧ ListsExactly ScenarioId.le
      ScenarioId.ofFlowLogName? ScenarioId.flowLogName directory entries files) ∧
    (∃ files, d.allocationLogs directory = .ok files ∧ ListsExactly PairId.le
      PairId.ofAllocationLogName? PairId.allocationLogName directory entries files) ∧
    (∃ files, d.results directory = .ok files ∧ ListsExactly PairId.le
      PairId.ofResultName? PairId.resultName directory entries files) := by
  have hentries := pairwise_of_list hlist
  refine ⟨⟨_, ?_, isListable_flowLog.listsExactly hentries⟩,
    ⟨_, ?_, isListable_allocationLog.listsExactly hentries⟩,
    ⟨_, ?_, isListable_result.listsExactly hentries⟩⟩
  · rw [flowLogs, hlist, Except.map]
  · rw [allocationLogs, hlist, Except.map]
  · rw [results, hlist, Except.map]

/-- A disk with a directory in which not everything with a name like that of a flow log is one. -/
def mixedLogs : Disk :=
  ([(["l"], .directory), (["flows__10.dat", "l"], .file .empty false),
    (["flows__2.dat", "l"], .file .empty false), (["flows__02.dat", "l"], .file .empty false),
    (["flows__3.dat", "l"], .directory), (["notes.txt", "l"], .file .empty false)] :
    List (Place × Entry)).foldl (fun d (place, entry) => d.put place entry) ⟨∅, []⟩

theorem listings_exact_mixedLogs : ∃ entries, mixedLogs.list ⟨"l"⟩ = .ok entries ∧
    ∃ files, mixedLogs.flowLogs ⟨"l"⟩ = .ok files ∧ (⟨2⟩, ⟨"l/flows__2.dat"⟩) ∈ files ∧
      ListsExactly ScenarioId.le ScenarioId.ofFlowLogName? ScenarioId.flowLogName ⟨"l"⟩ entries
        files := by
  have hfind : mixedLogs.find ⟨"l"⟩ = .ok (["l"], .directory) :=
    toOption_eq_some_iff.mp (by decide +kernel)
  have hlist := list_eq_ok.mpr ⟨["l"], hfind, rfl⟩
  obtain ⟨⟨files, hfiles, hexact⟩, -, -⟩ := listings_exact hlist
  have hheld : HoldsFile (mixedLogs.children ["l"]) (⟨2⟩ : ScenarioId).flowLogName :=
    holdsFile_children.mpr ⟨.file .empty false, by decide +kernel, rfl⟩
  have hmem := (hexact.mem_iff ⟨2⟩ ⟨"l/flows__2.dat"⟩).mpr ⟨hheld, by decide +kernel⟩
  exact ⟨_, hlist, files, hfiles, hmem, hexact⟩

end Disk

end RackTraffic
