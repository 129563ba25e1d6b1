import RackTraffic.Proofs.Decimal.Order
import RackTraffic.Proofs.Lists
import RackTraffic.Proofs.Result.Summary
import RackTraffic.Proofs.Traffic.ListedFiles

/-!
# The best variant has the least number among the largest

**Theorem (`Disk.bestVariant_leastLargest`).** If the results of a scenario can be read, its best
variant is the one with the least number among those with the largest mean throughput
(`IsLeastLargest`). Means that are not numbers do not count, and a scenario has no best variant if
it has no other means. Neither the order in which the operating system returns the entries of the
directory matters nor what else is in it, such as the results of other scenarios.

The best variant is found in one pass over the means in the order of the variants. After each of
them the best so far is the first of the largest (`FirstLargest`), and it remains so when the next
mean is not a number (`FirstLargest.skip`), is not greater (`FirstLargest.keep`) or is greater
(`FirstLargest.replace`). In the order of the variants the first is the least.
-/

namespace RackTraffic

variable {κ : Type} {values : List (κ × Float)} {best : Option (κ × Float)} {key : κ}
  {value top : Float}

/-! ## The first of the largest values -/

/-- The first of the largest values: those before it are less, and those after it are not greater.
There is none if no value is a number. -/
inductive FirstLargest : List (κ × Float) → Option (κ × Float) → Prop where
  | absent {values : List (κ × Float)} (h : ∀ v ∈ values, v.2.isNaN = true) :
      FirstLargest values none
  | found {before after : List (κ × Float)} {key : κ} {top : Float} (hnumber : top.isNaN = false)
      (hbefore : ∀ v ∈ before, v.2.isNaN = true ∨ v.2 < top)
      (hafter : ∀ v ∈ after, v.2.isNaN = true ∨ v.2 ≤ top) :
      FirstLargest (before ++ (key, top) :: after) (some (key, top))

namespace FirstLargest

/-- What is not a number does not count. -/
theorem skip (h : FirstLargest values best) (hnan : value.isNaN = true) :
    FirstLargest (values ++ [(key, value)]) best := by
  have hlast : ∀ v ∈ [(key, value)], v.2.isNaN = true := List.forall_mem_singleton.mpr hnan
  cases h with
  | absent h => exact .absent (List.forall_mem_append.mpr ⟨h, hlast⟩)
  | found hnumber hbefore hafter =>
    rw [List.append_assoc, List.cons_append]
    exact .found hnumber hbefore
      (List.forall_mem_append.mpr ⟨hafter, fun v hv => .inl (hlast v hv)⟩)

/-- A value that is not greater does not win. -/
theorem keep {k : κ} (h : FirstLargest values (some (k, top))) (hle : value ≤ top) :
    FirstLargest (values ++ [(key, value)]) (some (k, top)) := by
  cases h with
  | found hnumber hbefore hafter =>
    rw [List.append_assoc, List.cons_append]
    exact .found hnumber hbefore
      (List.forall_mem_append.mpr ⟨hafter, List.forall_mem_singleton.mpr (.inr hle)⟩)

/-- The best of some values is a number, and none of them is greater. -/
theorem le_top {k : κ} (h : FirstLargest values (some (k, top))) :
    top.isNaN = false ∧ ∀ v ∈ values, v.2.isNaN = true ∨ v.2 ≤ top := by
  cases h with
  | found hnumber hbefore hafter =>
    have hself : top ≤ top := (Decimal.le_iff hnumber hnumber).mpr le_rfl
    refine ⟨hnumber, List.forall_mem_append.mpr ⟨fun v hv => ?_,
      List.forall_mem_cons.mpr ⟨.inr hself, hafter⟩⟩⟩
    cases hnan : v.2.isNaN with
    | true => exact .inl rfl
    | false =>
      have hlt := (hbefore v hv).resolve_left (Bool.eq_false_iff.mp hnan)
      exact .inr (Decimal.le_of_lt hnan hnumber hlt)

/-- A value that is greater than the best so far is the best now. -/
theorem replace (h : FirstLargest values best) (hnumber : value.isNaN = false)
    (hgreater : ∀ b ∈ best, ¬value ≤ b.2) :
    FirstLargest (values ++ [(key, value)]) (some (key, value)) := by
  refine .found hnumber (fun v hv => ?_) (List.forall_mem_nil _)
  cases hnan : v.2.isNaN with
  | true => exact .inl rfl
  | false =>
    rcases best with _ | ⟨k, top⟩
    · cases h with
      | absent h => exact absurd (h v hv) (Bool.eq_false_iff.mp hnan)
    · obtain ⟨htop, hle⟩ := h.le_top
      have hvalue := (Decimal.not_le_iff hnumber htop).mp (hgreater (k, top) rfl)
      have hv := (hle v hv).resolve_left (Bool.eq_false_iff.mp hnan)
      exact .inr (Decimal.lt_of_le_of_lt hnan htop hnumber hv hvalue)

end FirstLargest

/-- The best so far remains the best of what has been looked at until the end. -/
theorem FirstLargest.run {before : List (κ × Float)} (h : FirstLargest before best)
    (values : List (κ × Float)) : FirstLargest (before ++ values) (firstLargest best values) := by
  induction values generalizing before best with
  | nil => rwa [List.append_nil, firstLargest]
  | cons v values ih =>
    obtain ⟨key, value⟩ := v
    rw [List.append_cons]
    rcases best with _ | ⟨k, top⟩
    · rw [firstLargest]
      split_ifs with hnan
      · exact ih (h.skip hnan)
      · exact ih (h.replace (Bool.eq_false_iff.mpr hnan) nofun)
    · rw [firstLargest]
      split_ifs with hnan hle
      · exact ih (h.skip hnan)
      · exact ih (h.keep hle)
      · exact ih (h.replace (Bool.eq_false_iff.mpr hnan) (by rintro _ ⟨⟩; exact hle))

theorem firstLargest_none (values : List (κ × Float)) :
    FirstLargest values (firstLargest none values) :=
  FirstLargest.run (.absent (List.forall_mem_nil _)) values

theorem firstLargest_eq_none_iff :
    firstLargest none values = none ↔ ∀ v ∈ values, v.2.isNaN = true := by
  have h := firstLargest_none values
  constructor
  · intro hnone
    rw [hnone] at h
    cases h with
    | absent h => exact h
  · intro hall
    rcases hbest : firstLargest none values with _ | ⟨key, top⟩
    · rfl
    · rw [hbest] at h
      cases h with
      | found hnumber =>
        have hnan : top.isNaN = true := hall (key, top) List.mem_append_cons_self
        rw [hnumber] at hnan
        cases hnan

/-! ## The least key of the largest value -/

/-- A key is the least of those with the largest value. -/
structure IsLeastLargest [LT κ] (HasValue : κ → Float → Prop) (key : κ) (top : Float) : Prop where
  has : HasValue key top
  number : top.isNaN = false
  largest : ∀ k value, HasValue k value → value.isNaN = true ∨ value ≤ top
  least : ∀ k value, HasValue k value → k < key → value.isNaN = true ∨ value < top

/-- Of values in the order of their keys the first of the largest is the one with the least key. -/
theorem firstLargest_eq_some_iff [LT κ] [Std.Asymm fun a b : κ => a < b]
    (hsorted : values.Pairwise fun a b => a.1 < b.1) :
    firstLargest none values = some (key, top) ↔
      IsLeastLargest (fun k value => (k, value) ∈ values) key top := by
  have h := firstLargest_none values
  constructor
  · intro hbest
    rw [hbest] at h
    have hle := h.le_top
    cases h with
    | found hnumber hbefore =>
      have : Std.Asymm fun a b : κ × Float => a.1 < b.1 :=
        ⟨fun a b => Std.Asymm.asymm (r := fun a b : κ => a < b) a.1 b.1⟩
      refine ⟨List.mem_append_cons_self, hnumber, fun k value => hle.2 (k, value),
        fun k value hmem hlt => ?_⟩
      have hmem' := mem_of_mem_append_cons hsorted hmem hlt
      exact hbefore (k, value) hmem'
  · intro hleast
    have hnot : ¬top.isNaN = true := Bool.eq_false_iff.mp hleast.number
    rcases hbest : firstLargest none values with _ | ⟨k, largest⟩
    · exact absurd (firstLargest_eq_none_iff.mp hbest _ hleast.has) hnot
    · rw [hbest] at h
      cases h with
      | found hnumber hbefore hafter =>
        have hnumber' : ¬largest.isNaN = true := Bool.eq_false_iff.mp hnumber
        rcases List.mem_append.mp hleast.has with hmem | hmem
        · -- It would be less than the largest.
          have hlt := (hbefore _ hmem).resolve_left hnot
          have hle := (hleast.largest k largest List.mem_append_cons_self).resolve_left hnumber'
          exact absurd hle ((Decimal.not_le_iff hnumber hleast.number).mpr hlt)
        · rcases List.mem_cons.mp hmem with heq | hmem
          · rw [heq]
          · -- The key of the largest value would be less.
            have hle := (hafter _ hmem).resolve_left hnot
            have hkey : k < key :=
              (List.pairwise_cons.mp (List.pairwise_append.mp hsorted).2.1).1 _ hmem
            have hlt :=
              (hleast.least k largest List.mem_append_cons_self hkey).resolve_left hnumber'
            exact absurd hle ((Decimal.not_le_iff hleast.number hnumber).mpr hlt)

/-! ## The means of a scenario -/

instance : LT VariantId := ⟨fun a b => a.number < b.number⟩

instance (a b : VariantId) : Decidable (a < b) := inferInstanceAs (Decidable (a.number < b.number))

instance : Std.Asymm fun a b : VariantId => a < b := ⟨fun _ _ => UInt64.lt_asymm⟩

theorem PairId.variant_lt {a b : PairId} (h : a < b) (heq : a.scenario = b.scenario) :
    a.variant < b.variant := by
  rcases h with hlt | ⟨-, hlt⟩
  · exact absurd (heq ▸ hlt) (ScenarioId.lt_irrefl _)
  · exact hlt

namespace Disk

variable {d e : Disk} {directory : Path} {entries others : List (String × Entry)}
  {ids : List PairId} {id : PairId} {scenario : ScenarioId}

/-- A directory has the result of a pair, with a mean throughput. -/
def HasMean (d : Disk) (directory : Path) (entries : List (String × Entry)) (id : PairId)
    (mean : Float) : Prop :=
  HoldsFile entries id.resultName ∧
    ∃ result, d.readResult (directory.join id.resultName) = .ok result ∧ result.average = mean

/-- The results of a scenario can be read. -/
def Readable (d : Disk) (directory : Path) (entries : List (String × Entry))
    (scenario : ScenarioId) : Prop :=
  ∀ id : PairId, id.scenario = scenario → HoldsFile entries id.resultName →
    ∃ result, d.readResult (directory.join id.resultName) = .ok result

theorem pairThroughput_eq_ok_iff (hlist : d.list directory = .ok entries)
    (hfile : HoldsFile entries id.resultName) {value : VariantId × Float} :
    d.pairThroughput directory id = .ok value ↔
      value.1 = id.variant ∧ d.HasMean directory entries id value.2 := by
  rw [pairThroughput, throughput_of_holdsFile hlist hfile, mapError_map]
  simp only [map_eq_ok, mapError_eq_ok]
  constructor
  · rintro ⟨_, ⟨result, hresult, rfl⟩, rfl⟩
    exact ⟨rfl, hfile, result, hresult, rfl⟩
  · rintro ⟨hvariant, -, result, hresult, hmean⟩
    exact ⟨_, ⟨result, hresult, rfl⟩, Prod.ext hvariant.symm hmean⟩

theorem ListsResults.pairsOf_sorted (h : d.ListsResults directory entries ids)
    (scenario : ScenarioId) : (pairsOf scenario ids).Pairwise (· < ·) :=
  h.sorted.filter _

/-- If the results of a scenario can be read, its throughputs are their means, in the order of the
variants. -/
theorem ListsResults.exists_means (h : d.ListsResults directory entries ids)
    (hlist : d.list directory = .ok entries) (hread : d.Readable directory entries scenario) :
    ∃ values, d.scenarioThroughputs directory ids scenario = .ok values ∧
      (values.Pairwise fun a b => a.1 < b.1) ∧
      ∀ variant mean, (variant, mean) ∈ values ↔
        d.HasMean directory entries ⟨scenario, variant⟩ mean := by
  obtain ⟨values, hvalues⟩ := exists_mapM_eq_ok_iff.mpr fun id hid => by
    obtain ⟨hmem, hscenario⟩ := mem_pairsOf.mp hid
    have hfile := h.mem_iff.mp hmem
    exact (exists_pairThroughput_iff hlist hfile).mpr (hread id hscenario hfile)
  have hall := mapM_eq_ok_iff.mp hvalues
  refine ⟨values, hvalues, ?_, fun variant mean => ⟨fun hmem => ?_, fun hmean => ?_⟩⟩
  · have hvariants : values.map Prod.fst = (pairsOf scenario ids).map PairId.variant :=
      map_eq_map_of_forall₂ hall fun id value hvalue => by
        obtain ⟨_, -, rfl⟩ := map_eq_ok.mp hvalue
        rfl
    rw [← List.pairwise_map, hvariants, List.pairwise_map]
    exact (h.pairsOf_sorted scenario).imp_of_mem fun ha hb hlt =>
      PairId.variant_lt hlt ((mem_pairsOf.mp ha).2.trans (mem_pairsOf.mp hb).2.symm)
  · obtain ⟨id, hid, hvalue⟩ := exists_mem_of_forall₂ hall hmem
    obtain ⟨hmem, rfl⟩ := mem_pairsOf.mp hid
    obtain ⟨rfl, hmean⟩ := (pairThroughput_eq_ok_iff hlist (h.mem_iff.mp hmem)).mp hvalue
    exact hmean
  · have hid := mem_pairsOf.mpr ⟨h.mem_iff.mpr hmean.1, rfl⟩
    obtain ⟨value, hmem, hvalue⟩ := exists_mem_of_forall₂ hall.flip hid
    have hvalue' : d.pairThroughput directory ⟨scenario, variant⟩ = .ok (variant, mean) :=
      (pairThroughput_eq_ok_iff hlist hmean.1).mpr ⟨rfl, hmean⟩
    rwa [Except.ok.inj (hvalue'.symm.trans hvalue)]

/-! ## What does not matter -/

/-- The best variant of a scenario, with the entries of the directory in a given order. -/
def bestVariantFrom (d : Disk) (scenario : ScenarioId) (directory : Path)
    (entries : List (String × Entry)) : Except WorkFault (Option (VariantId × Float)) :=
  let results := listing PairId.le PairId.ofResultName? directory entries
  (d.throughputs (results.filter fun (id, _) => id.scenario = scenario)).map (firstLargest none)

theorem bestVariant_eq_bestVariantFrom (hlist : d.list directory = .ok entries) :
    d.bestVariant scenario directory = d.bestVariantFrom scenario directory entries := by
  rw [bestVariant, results, hlist]
  rfl

theorem bestVariantFrom_perm (hlist : d.list directory = .ok entries)
    (horder : others.Perm entries) :
    d.bestVariantFrom scenario directory others = d.bestVariant scenario directory := by
  have hlisted : listing PairId.le PairId.ofResultName? directory others =
      listing PairId.le PairId.ofResultName? directory entries :=
    (isListable_result.listsExactly (pairwise_of_list hlist)).any_order others horder
  rw [bestVariant_eq_bestVariantFrom hlist, bestVariantFrom, hlisted, bestVariantFrom]

/-- There are the same results of a scenario among the entries of two directories. -/
def SameResults (scenario : ScenarioId) (entries others : List (String × Entry)) : Prop :=
  ∀ id : PairId, id.scenario = scenario → ∀ contents,
    (∃ executable, (id.resultName, .file contents executable) ∈ entries) ↔
      ∃ executable, (id.resultName, .file contents executable) ∈ others

/-- Results with the same text have the same throughput. -/
theorem pairThroughput_congr (h : d.readText (directory.join id.resultName) =
    e.readText (directory.join id.resultName)) :
    d.pairThroughput directory id = e.pairThroughput directory id := by
  have hread : d.readResult (directory.join id.resultName) =
      e.readResult (directory.join id.resultName) := by
    rw [readResult, readResult, h]
  rw [pairThroughput, pairThroughput, throughput, throughput, hread]

/-- Only the results of the scenario itself matter. -/
theorem bestVariant_congr (hlist : d.list directory = .ok entries)
    (hothers : e.list directory = .ok others) (h : SameResults scenario entries others) :
    d.bestVariant scenario directory = e.bestVariant scenario directory := by
  obtain ⟨ids, hids⟩ := exists_listsResults hlist
  obtain ⟨ids', hids'⟩ := exists_listsResults hothers
  have hpairs : pairsOf scenario ids = pairsOf scenario ids' := by
    refine (hids.pairsOf_sorted _).eq_of_mem_iff (hids'.pairsOf_sorted _) fun id => ?_
    rw [mem_pairsOf, mem_pairsOf, hids.mem_iff, hids'.mem_iff, holdsFile_iff, holdsFile_iff]
    exact and_congr_left fun hscenario => exists_congr fun contents => h id hscenario contents
  have hthroughputs : ∀ id ∈ pairsOf scenario ids,
      d.pairThroughput directory id = e.pairThroughput directory id := by
    intro id hid
    obtain ⟨hmem, hscenario⟩ := mem_pairsOf.mp hid
    obtain ⟨contents, x, hmem⟩ := holdsFile_iff.mp (hids.mem_iff.mp hmem)
    obtain ⟨y, hmem'⟩ := (h id hscenario contents).mp ⟨x, hmem⟩
    exact pairThroughput_congr
      (readText_join_congr id.isEntryName_resultName hlist hothers hmem hmem')
  rw [hids.bestVariant_eq, hids'.bestVariant_eq, scenarioThroughputs, scenarioThroughputs,
    ← hpairs, mapM_congr hthroughputs]

/-! ## Which variant is the best -/

/-- **The best variant has the least number among those with the largest mean.** -/
theorem bestVariant_leastLargest (hlist : d.list directory = .ok entries)
    (hread : d.Readable directory entries scenario) :
    (∃ best?, d.bestVariant scenario directory = .ok best?) ∧
    (∀ variant mean, d.bestVariant scenario directory = .ok (some (variant, mean)) ↔
      IsLeastLargest (fun v => d.HasMean directory entries ⟨scenario, v⟩) variant mean) ∧
    (d.bestVariant scenario directory = .ok none ↔
      ∀ variant mean, d.HasMean directory entries ⟨scenario, variant⟩ mean → mean.isNaN = true) ∧
    (∀ order : List (String × Entry), order.Perm entries →
      d.bestVariantFrom scenario directory order = d.bestVariant scenario directory) ∧
    ∀ (e : Disk) others, e.list directory = .ok others → SameResults scenario entries others →
      d.bestVariant scenario directory = e.bestVariant scenario directory := by
  obtain ⟨ids, hids⟩ := exists_listsResults hlist
  obtain ⟨values, hvalues, hsorted, hmeans⟩ := hids.exists_means hlist hread
  have hbest : d.bestVariant scenario directory = .ok (firstLargest none values) := by
    rw [hids.bestVariant_eq, hvalues]
    rfl
  refine ⟨⟨_, hbest⟩, fun variant mean => ?_, ?_, fun order => bestVariantFrom_perm hlist,
    fun e others => bestVariant_congr hlist⟩
  · rw [hbest, Except.ok.injEq, firstLargest_eq_some_iff hsorted]
    simp only [hmeans]
  · rw [hbest, Except.ok.injEq, firstLargest_eq_none_iff, Prod.forall]
    simp only [hmeans]

theorem list_measuredDisk : measuredDisk.list ⟨"r"⟩ = .ok (measuredDisk.children ["r"]) :=
  list_eq_ok.mpr ⟨["r"], find_measuredDisk, rfl⟩

theorem hasMean_measuredDisk {id : PairId} {mean : Float} :
    measuredDisk.HasMean ⟨"r"⟩ (measuredDisk.children ["r"]) id mean ↔
      ∃ m ∈ measuredPairs, m.id = id ∧ m.mean = mean := by
  constructor
  · intro h
    obtain ⟨m, hm, rfl⟩ := List.mem_map.mp (listsResults_measuredDisk.mem_iff.mpr h.1)
    have hvalue : measuredDisk.pairThroughput ⟨"r"⟩ m.id = .ok (m.id.variant, mean) :=
      (pairThroughput_eq_ok_iff list_measuredDisk h.1).mpr ⟨rfl, h⟩
    rw [pairThroughput_measuredDisk hm] at hvalue
    exact ⟨m, hm, rfl, congrArg Prod.snd (Except.ok.inj hvalue)⟩
  · rintro ⟨m, hm, rfl, rfl⟩
    have hfile := listsResults_measuredDisk.mem_iff.mp (List.mem_map_of_mem hm)
    exact ((pairThroughput_eq_ok_iff list_measuredDisk hfile).mp
      (pairThroughput_measuredDisk hm)).2

theorem readable_measuredDisk (scenario : ScenarioId) :
    measuredDisk.Readable ⟨"r"⟩ (measuredDisk.children ["r"]) scenario := by
  rintro id - hfile
  obtain ⟨m, hm, rfl⟩ := List.mem_map.mp (listsResults_measuredDisk.mem_iff.mpr hfile)
  exact (exists_pairThroughput_iff list_measuredDisk hfile).mp
    ⟨_, pairThroughput_measuredDisk hm⟩

/-- Of two variants with the same mean it is the one with the lower number, not the one whose name
comes first or whose first throughput is larger. -/
theorem bestVariant_leastLargest_measuredDisk :
    measuredDisk.bestVariant ⟨0⟩ ⟨"r"⟩ = .ok (some (⟨9⟩, 3.0)) ∧
      measuredDisk.bestVariant ⟨5⟩ ⟨"r"⟩ = .ok none := by
  have hlargest : ∀ m ∈ measuredPairs, m.id.scenario = ⟨0⟩ →
      m.mean.isNaN = true ∨ m.mean ≤ 3.0 := by decide +kernel
  have hleast : ∀ m ∈ measuredPairs, m.id.scenario = ⟨0⟩ → m.id.variant < ⟨9⟩ →
      m.mean.isNaN = true ∨ m.mean < 3.0 := by decide +kernel
  have hnone : ∀ m ∈ measuredPairs, m.id.scenario = ⟨5⟩ → m.mean.isNaN = true := by decide +kernel
  obtain ⟨-, hbest, -⟩ := bestVariant_leastLargest list_measuredDisk (readable_measuredDisk ⟨0⟩)
  obtain ⟨-, -, habsent, -⟩ :=
    bestVariant_leastLargest list_measuredDisk (readable_measuredDisk ⟨5⟩)
  refine ⟨(hbest _ _).mpr ⟨?_, by decide +kernel, fun v mean h => ?_, fun v mean h hlt => ?_⟩,
    habsent.mpr fun v mean h => ?_⟩
  · exact hasMean_measuredDisk.mpr ⟨⟨⟨⟨0⟩, ⟨9⟩⟩, rising 1, 3.0⟩, .tail _ (.head _), rfl, rfl⟩
  · obtain ⟨m, hm, hid, rfl⟩ := hasMean_measuredDisk.mp h
    exact hlargest m hm (congrArg PairId.scenario hid)
  · obtain ⟨m, hm, hid, rfl⟩ := hasMean_measuredDisk.mp h
    exact hleast m hm (congrArg PairId.scenario hid) (congrArg PairId.variant hid ▸ hlt)
  · obtain ⟨m, hm, hid, rfl⟩ := hasMean_measuredDisk.mp h
    exact hnone m hm (congrArg PairId.scenario hid)

end Disk

end RackTraffic
