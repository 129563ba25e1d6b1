import RackTraffic.Proofs.Disk.Entries
import RackTraffic.Proofs.Lists
import RackTraffic.Proofs.Result.Best

/-!
# The summary of a directory

There are two ways to ask for best variants: for that of one scenario, and for a summary of all
scenarios. The one filters the results of a directory, and the other puts them into groups. Both
agree (`Disk.summarize_agrees`): the summary has an entry for each scenario with a best variant, and
it names this variant. It fails if the question fails for some scenario, and then as it does for the
least one.

Both take the throughputs of a scenario from the same files (`Disk.ListsResults.bestVariant_eq`,
`Disk.ListsResults.summarize_eq`), so what they make of them is compared for each scenario.

What makes them fail is the first result, in the order of pairs, that cannot be read
(`Disk.FirstUnreadable`). It is not that a result is missing, which counts as a throughput of zero:
the results come from the listing of the directory, so their files are there
(`Disk.throughput_of_holdsFile`).
-/

namespace RackTraffic.Disk

variable {d : Disk} {directory path : Path} {entries : List (String × Entry)} {ids : List PairId}
  {id : PairId} {scenario : ScenarioId} {fault : WorkFault} {reason : ResultFault}
  {bests : List ScenarioBest}

/-! ## Reading results -/

theorem readResult_ne_missing (h : d.readText path ≠ .error .notFound) {other : Path} :
    d.readResult path ≠ .error (.missing other) := by
  unfold readResult
  cases htext : d.readText path with
  | error error =>
    cases error
    case notFound => exact absurd htext h
    all_goals
      rintro h
      cases h
  | ok text =>
    simp only [Except.mapError, bind, Except.bind]
    cases RunResult.ofText text <;> nofun

/-- The throughput of a result that is not missing is its mean. -/
theorem throughput_eq_map (h : d.readText path ≠ .error .notFound) :
    d.throughput path = (d.readResult path).map fun result => .measured result.average := by
  rw [throughput]
  cases hread : d.readResult path with
  | ok result => rfl
  | error fault =>
    cases fault
    case missing other => exact absurd hread (readResult_ne_missing h)
    all_goals rfl

/-- A result that a directory holds is not missing. -/
theorem throughput_of_holdsFile (hlist : d.list directory = .ok entries)
    (hfile : HoldsFile entries id.resultName) : d.throughput (directory.join id.resultName) =
      (d.readResult (directory.join id.resultName)).map fun result => .measured result.average := by
  obtain ⟨place, hfind, rfl⟩ := list_eq_ok.mp hlist
  exact throughput_eq_map
    (readText_join_ne_notFound hfind id.isEntryName_resultName (holdsFile_children.mp hfile))

/-! ## The throughputs of a scenario -/

/-- The throughput of a pair whose result is in a directory, with its variant. -/
def pairThroughput (d : Disk) (directory : Path) (id : PairId) :
    Except WorkFault (VariantId × Float) :=
  ((d.throughput (directory.join id.resultName)).mapError .result).map fun throughput =>
    (id.variant, throughput.value)

/-- The throughputs of the pairs of a scenario. -/
def scenarioThroughputs (d : Disk) (directory : Path) (ids : List PairId) (scenario : ScenarioId) :
    Except WorkFault (List (VariantId × Float)) :=
  (pairsOf scenario ids).mapM (d.pairThroughput directory)

/-- A scenario without results has no throughputs. -/
theorem scenarioThroughputs_eq_nil (h : scenario ∉ scenariosOf ids) :
    d.scenarioThroughputs directory ids scenario = .ok [] := by
  rw [scenarioThroughputs, pairsOf_eq_nil h]
  rfl

/-- The pairs with results in a directory, in order. -/
structure ListsResults (d : Disk) (directory : Path) (entries : List (String × Entry))
    (ids : List PairId) : Prop where
  sorted : ids.Pairwise (· < ·)
  results_eq : d.results directory = .ok (withPaths (directory.join ·.resultName) ids)
  files : ids.Perm (fileKeys PairId.ofResultName? entries)

theorem exists_listsResults (hlist : d.list directory = .ok entries) :
    ∃ ids, d.ListsResults directory entries ids := by
  obtain ⟨ids, hresults, hsorted, hfiles⟩ := exists_results hlist
  exact ⟨ids, hsorted, hresults, hfiles⟩

theorem ListsResults.mem_iff (h : d.ListsResults directory entries ids) :
    id ∈ ids ↔ HoldsFile entries id.resultName := by
  rw [h.files.mem_iff, mem_fileKeys fun _ _ => PairId.ofResultName?_eq_some]

theorem throughputs_withPaths (ids : List PairId) :
    d.throughputs (withPaths (directory.join ·.resultName) ids) =
      ids.mapM (d.pairThroughput directory) := by
  rw [throughputs_eq_mapM, withPaths, List.mapM_map]
  rfl

/-- The best variant of a scenario is found among its own throughputs. -/
theorem ListsResults.bestVariant_eq (h : d.ListsResults directory entries ids)
    (scenario : ScenarioId) :
    d.bestVariant scenario directory =
      (d.scenarioThroughputs directory ids scenario).map (firstLargest none) := by
  have hfilter : (withPaths (directory.join ·.resultName) ids).filter
      (fun result => result.1.scenario = scenario) =
        withPaths (directory.join ·.resultName) (pairsOf scenario ids) := List.filter_map
  rw [bestVariant, h.results_eq, scenarioThroughputs, ← throughputs_withPaths, ← hfilter]
  rfl

/-- The summary asks every scenario for its throughputs. -/
theorem ListsResults.summarize_eq (h : d.ListsResults directory entries ids) :
    d.summarize directory = ((scenariosOf ids).mapM fun scenario =>
      (d.scenarioThroughputs directory ids scenario).map
        (ScenarioBest.ofValues? scenario)).map List.reduceOption := by
  have hgroup : (d.bestOfGroup ∘ fun scenario =>
      (scenario, withPaths (directory.join ·.resultName) (pairsOf scenario ids))) =
        fun scenario => (d.scenarioThroughputs directory ids scenario).map
          (ScenarioBest.ofValues? scenario) := by
    funext scenario
    rw [scenarioThroughputs, ← throughputs_withPaths]
    rfl
  rw [summarize, h.results_eq, ← hgroup, ← List.mapM_map, ← groupByScenario_withPaths h.sorted,
    ← bestOfGroups_eq_mapM]
  rfl

/-! ## When a summary succeeds -/

/-- What a summary contains. -/
theorem ListsResults.mem_bests (h : d.ListsResults directory entries ids)
    (hbests : d.summarize directory = .ok bests) {best : ScenarioBest} :
    best ∈ bests ↔ ∃ values, d.scenarioThroughputs directory ids best.scenario = .ok values ∧
      firstLargest none values = some (best.variant, best.throughput) ∧
      best.variantCount = values.length := by
  rw [h.summarize_eq, map_eq_ok] at hbests
  obtain ⟨found, hfound, rfl⟩ := hbests
  have hall := mapM_eq_ok_iff.mp hfound
  rw [List.reduceOption_mem_iff]
  constructor
  · intro hmem
    obtain ⟨scenario, -, hscenario⟩ := exists_mem_of_forall₂ hall hmem
    obtain ⟨values, hvalues, hbest⟩ := map_eq_ok.mp hscenario
    obtain ⟨rfl, hlargest, hcount⟩ := ScenarioBest.ofValues?_eq_some.mp hbest
    exact ⟨values, hvalues, hlargest, hcount⟩
  · rintro ⟨values, hvalues, hlargest, hcount⟩
    have hmem : best.scenario ∈ scenariosOf ids := by
      by_contra hnot
      rw [scenarioThroughputs_eq_nil hnot] at hvalues
      cases hvalues
      cases hlargest
    obtain ⟨best?, hmem', hbest⟩ := exists_mem_of_forall₂ hall.flip hmem
    rw [hvalues] at hbest
    obtain rfl : ScenarioBest.ofValues? best.scenario values = best? := Except.ok.inj hbest
    rwa [ScenarioBest.ofValues?_eq_some.mpr ⟨rfl, hlargest, hcount⟩] at hmem'

/-- The entries of a summary are in the order of their scenarios. -/
theorem ListsResults.bests_increasing (h : d.ListsResults directory entries ids)
    (hbests : d.summarize directory = .ok bests) :
    bests.Pairwise fun a b => a.scenario < b.scenario := by
  rw [h.summarize_eq, map_eq_ok] at hbests
  obtain ⟨found, hfound, rfl⟩ := hbests
  refine List.pairwise_map.mp ((scenariosOf_increasing h.sorted).sublist
    (map_reduceOption_sublist ((mapM_eq_ok_iff.mp hfound).imp ?_)))
  rintro scenario best? hscenario best hbest
  obtain ⟨values, -, rfl⟩ := map_eq_ok.mp hscenario
  exact (ScenarioBest.ofValues?_eq_some.mp hbest).1

/-- A summary agrees with what is said about each scenario, in a directory with given entries. -/
structure SummaryAgrees (d : Disk) (directory : Path) (entries : List (String × Entry))
    (bests : List ScenarioBest) : Prop where
  increasing : bests.Pairwise fun a b => a.scenario < b.scenario
  some_iff : ∀ scenario variant throughput,
    d.bestVariant scenario directory = .ok (some (variant, throughput)) ↔
      ∃ best ∈ bests, best.scenario = scenario ∧ best.variant = variant ∧
        best.throughput = throughput
  none_iff : ∀ scenario, d.bestVariant scenario directory = .ok none ↔
    ∀ best ∈ bests, best.scenario ≠ scenario
  variantCount_eq : ∀ best ∈ bests, best.variantCount =
    (fileKeys PairId.ofResultName? entries).countP fun id => id.scenario = best.scenario

/-- If there is a summary, every scenario can be asked for. -/
theorem ListsResults.exists_values (h : d.ListsResults directory entries ids)
    (hbests : d.summarize directory = .ok bests) (scenario : ScenarioId) :
    ∃ values, d.scenarioThroughputs directory ids scenario = .ok values := by
  by_cases hmem : scenario ∈ scenariosOf ids
  · rw [h.summarize_eq, map_eq_ok] at hbests
    obtain ⟨found, hfound, -⟩ := hbests
    obtain ⟨best?, hbest⟩ := exists_mapM_eq_ok_iff.mp ⟨found, hfound⟩ scenario hmem
    exact exists_map_eq_ok_iff.mp ⟨best?, hbest⟩
  · exact ⟨[], scenarioThroughputs_eq_nil hmem⟩

theorem ListsResults.summaryAgrees (h : d.ListsResults directory entries ids)
    (hbests : d.summarize directory = .ok bests) : d.SummaryAgrees directory entries bests := by
  have hsome : ∀ scenario variant throughput,
      d.bestVariant scenario directory = .ok (some (variant, throughput)) ↔
        ∃ best ∈ bests, best.scenario = scenario ∧ best.variant = variant ∧
          best.throughput = throughput := by
    intro scenario variant throughput
    rw [h.bestVariant_eq, map_eq_ok]
    constructor
    · rintro ⟨values, hvalues, hlargest⟩
      exact ⟨⟨scenario, variant, throughput, values.length⟩,
        (h.mem_bests hbests).mpr ⟨values, hvalues, hlargest, rfl⟩, rfl, rfl, rfl⟩
    · rintro ⟨best, hbest, rfl, rfl, rfl⟩
      obtain ⟨values, hvalues, hlargest, -⟩ := (h.mem_bests hbests).mp hbest
      exact ⟨values, hvalues, hlargest⟩
  refine ⟨h.bests_increasing hbests, hsome, fun scenario => ?_, fun best hbest => ?_⟩
  · constructor
    · rintro hnone best hbest rfl
      rw [(hsome _ _ _).mpr ⟨best, hbest, rfl, rfl, rfl⟩] at hnone
      cases hnone
    · intro hnot
      obtain ⟨values, hvalues⟩ := h.exists_values hbests scenario
      have hbest : d.bestVariant scenario directory = .ok (firstLargest none values) := by
        rw [h.bestVariant_eq, hvalues]
        rfl
      cases hlargest : firstLargest none values with
      | none => rw [hbest, hlargest]
      | some found =>
        obtain ⟨best, hmem', heq, -⟩ := (hsome scenario found.1 found.2).mp (hlargest ▸ hbest)
        exact absurd heq (hnot best hmem')
  · obtain ⟨values, hvalues, -, hcount⟩ := (h.mem_bests hbests).mp hbest
    rw [hcount, ← (mapM_eq_ok_iff.mp hvalues).length_eq, pairsOf, ← List.countP_eq_length_filter]
    exact h.files.countP_eq _

/-! ## When a summary fails -/

/-- A pair has the first result of a directory that cannot be read, in the order of pairs. -/
structure FirstUnreadable (d : Disk) (directory : Path) (entries : List (String × Entry))
    (id : PairId) (reason : ResultFault) : Prop where
  held : HoldsFile entries id.resultName
  unreadable : d.readResult (directory.join id.resultName) = .error reason
  earlier : ∀ other : PairId, HoldsFile entries other.resultName → other < id →
    ∃ result, d.readResult (directory.join other.resultName) = .ok result

theorem exists_pairThroughput_iff (hlist : d.list directory = .ok entries)
    (hfile : HoldsFile entries id.resultName) :
    (∃ value, d.pairThroughput directory id = .ok value) ↔
      ∃ result, d.readResult (directory.join id.resultName) = .ok result := by
  simp only [pairThroughput, throughput_of_holdsFile hlist hfile, exists_map_eq_ok_iff,
    mapError_eq_ok]

theorem pairThroughput_eq_error (hlist : d.list directory = .ok entries)
    (hfile : HoldsFile entries id.resultName) :
    d.pairThroughput directory id = .error fault ↔
      ∃ reason, d.readResult (directory.join id.resultName) = .error reason ∧
        .result reason = fault := by
  simp only [pairThroughput, throughput_of_holdsFile hlist hfile, map_eq_error, mapError_eq_error]

/-- What makes a summary fail. The pairs before the one that is at fault are those of the scenarios
before, and those before it in its own scenario. -/
theorem ListsResults.exists_firstUnreadable (h : d.ListsResults directory entries ids)
    (hlist : d.list directory = .ok entries) (hfault : d.summarize directory = .error fault) :
    ∃ id reason, d.FirstUnreadable directory entries id reason ∧ .result reason = fault ∧
      d.scenarioThroughputs directory ids id.scenario = .error fault ∧
      ∀ scenario < id.scenario, ∃ values,
        d.scenarioThroughputs directory ids scenario = .ok values := by
  rw [h.summarize_eq, map_eq_error, mapM_eq_error_iff] at hfault
  obtain ⟨before, scenario, after, hscenarios, hbefore, hscenario⟩ := hfault
  rw [map_eq_error] at hscenario
  simp only [exists_map_eq_ok_iff] at hbefore
  have hless : ∀ s < scenario, ∃ values, d.scenarioThroughputs directory ids s = .ok values := by
    intro s hs
    by_cases hmem : s ∈ scenariosOf ids
    · have hincreasing := scenariosOf_increasing h.sorted
      rw [hscenarios] at hmem hincreasing
      exact hbefore s (mem_of_mem_append_cons hincreasing hmem hs)
    · exact ⟨[], scenarioThroughputs_eq_nil hmem⟩
  obtain ⟨first, id, rest, hpairs, hfirst, hid⟩ := mapM_eq_error_iff.mp hscenario
  obtain ⟨hmem, rfl⟩ := mem_pairsOf.mp (hpairs ▸ List.mem_append_cons_self)
  have hfile := h.mem_iff.mp hmem
  obtain ⟨reason, hreason, rfl⟩ := (pairThroughput_eq_error hlist hfile).mp hid
  refine ⟨id, reason, ⟨hfile, hreason, fun other hother hlt => ?_⟩, rfl, hscenario, hless⟩
  rw [← exists_pairThroughput_iff hlist hother]
  rcases PairId.scenario_lt_or_eq hlt with hs | hs
  · exact exists_mapM_eq_ok_iff.mp (hless _ hs) other
      (mem_pairsOf.mpr ⟨h.mem_iff.mpr hother, rfl⟩)
  · have hmem' := mem_pairsOf.mpr ⟨h.mem_iff.mpr hother, hs⟩
    have hincreasing : (pairsOf id.scenario ids).Pairwise (· < ·) := h.sorted.filter _
    rw [hpairs] at hmem' hincreasing
    exact hfirst other (mem_of_mem_append_cons hincreasing hmem' hlt)

theorem FirstUnreadable.unique {id' : PairId} {reason' : ResultFault}
    (h : d.FirstUnreadable directory entries id reason)
    (h' : d.FirstUnreadable directory entries id' reason') : id' = id ∧ reason' = reason := by
  have hnot : ∀ {a b : PairId} {r r' : ResultFault}, d.FirstUnreadable directory entries a r →
      d.FirstUnreadable directory entries b r' → ¬b < a := by
    intro a b r r' ha hb hlt
    obtain ⟨result, hread⟩ := ha.earlier b hb.held hlt
    rw [hb.unreadable] at hread
    cases hread
  obtain rfl : id' = id := by
    rcases PairId.lt_trichotomy id' id with hlt | heq | hlt
    · exact absurd hlt (hnot h h')
    · exact heq
    · exact absurd hlt (hnot h' h)
  exact ⟨rfl, Except.error.inj (h'.unreadable.symm.trans h.unreadable)⟩

/-- A summary fails if a result cannot be read. -/
theorem ListsResults.summarize_eq_error (h : d.ListsResults directory entries ids)
    (hlist : d.list directory = .ok entries)
    (hfirst : d.FirstUnreadable directory entries id reason) :
    d.summarize directory = .error (.result reason) := by
  cases hsummary : d.summarize directory with
  | error fault =>
    obtain ⟨id', reason', hfirst', rfl, -⟩ := h.exists_firstUnreadable hlist hsummary
    rw [(hfirst.unique hfirst').2]
  | ok bests =>
    have hvalue := exists_mapM_eq_ok_iff.mp (h.exists_values hsummary id.scenario) id
      (mem_pairsOf.mpr ⟨h.mem_iff.mpr hfirst.held, rfl⟩)
    obtain ⟨result, hread⟩ := (exists_pairThroughput_iff hlist hfirst.held).mp hvalue
    rw [hfirst.unreadable] at hread
    cases hread

/-- **A summary agrees with what is said about each scenario.** -/
theorem summarize_agrees (hlist : d.list directory = .ok entries) :
    (∀ bests, d.summarize directory = .ok bests → d.SummaryAgrees directory entries bests) ∧
      ((∃ fault, d.summarize directory = .error fault) ↔
        ∃ scenario fault, d.bestVariant scenario directory = .error fault) ∧
      (∀ fault, d.summarize directory = .error fault ↔
        ∃ id reason, d.FirstUnreadable directory entries id reason ∧ .result reason = fault) ∧
      ∀ id reason, d.FirstUnreadable directory entries id reason →
        d.bestVariant id.scenario directory = .error (.result reason) ∧
          ∀ scenario < id.scenario, ∃ best?, d.bestVariant scenario directory = .ok best? := by
  obtain ⟨ids, hids⟩ := exists_listsResults hlist
  refine ⟨fun bests => hids.summaryAgrees, ⟨?_, ?_⟩, fun fault => ⟨?_, ?_⟩, ?_⟩
  · rintro ⟨fault, h⟩
    obtain ⟨id, reason, -, -, hid, -⟩ := hids.exists_firstUnreadable hlist h
    exact ⟨id.scenario, fault, by rw [hids.bestVariant_eq, map_eq_error, hid]⟩
  · rintro ⟨scenario, fault, h⟩
    refine exists_eq_error_iff.mpr fun ⟨bests, hbests⟩ => ?_
    obtain ⟨values, hvalues⟩ := hids.exists_values hbests scenario
    rw [hids.bestVariant_eq, hvalues] at h
    cases h
  · intro h
    obtain ⟨id, reason, hfirst, hreason, -⟩ := hids.exists_firstUnreadable hlist h
    exact ⟨id, reason, hfirst, hreason⟩
  · rintro ⟨id, reason, hfirst, rfl⟩
    exact hids.summarize_eq_error hlist hfirst
  · intro id reason hfirst
    obtain ⟨id', reason', hfirst', -, hid, hless⟩ :=
      hids.exists_firstUnreadable hlist (hids.summarize_eq_error hlist hfirst)
    obtain ⟨rfl, -⟩ := hfirst.unique hfirst'
    refine ⟨by rw [hids.bestVariant_eq, map_eq_error, hid], fun scenario hlt => ?_⟩
    rw [hids.bestVariant_eq, exists_map_eq_ok_iff]
    exact hless scenario hlt

/-! ## Some results -/

/-- A result whose applications have given throughputs. -/
def resultText (throughputs : List (List Char)) : String :=
  String.ofList (throughputs.flatMap fun throughput =>
    "[0 ".toList ++ throughput ++ " 1]\n".toList)

/-- Throughputs that rise from a digit to the one four above it, three of each. -/
def rising (first : Nat) : List (List Char) :=
  (List.range applicationCount).map fun i => [Nat.digitChar (first + i / 3)]

/-- Throughputs of which one is not a number. -/
def partlyNaN : List (List Char) := "nan".toList :: (rising 1).tail

/-- A pair with the throughputs of its result and their mean. -/
structure MeasuredPair where
  id : PairId
  throughputs : List (List Char)
  mean : Float

/-- Results of three scenarios. In the first there is a tie, and the last has no best variant. -/
def measuredPairs : List MeasuredPair := [
  ⟨⟨⟨0⟩, ⟨0⟩⟩, partlyNaN, 0.0 / 0.0⟩,
  ⟨⟨⟨0⟩, ⟨9⟩⟩, rising 1, 3.0⟩,
  ⟨⟨⟨0⟩, ⟨10⟩⟩, (rising 1).reverse, 3.0⟩,
  ⟨⟨⟨2⟩, ⟨0⟩⟩, rising 5, 7.0⟩,
  ⟨⟨⟨5⟩, ⟨1⟩⟩, partlyNaN, 0.0 / 0.0⟩]

/-- Their files, and one that is not a result. -/
def measuredFiles : List (String × String) :=
  ("00_0.txt", "") :: measuredPairs.map fun m => (m.id.resultName, resultText m.throughputs)

/-- A disk with a directory that holds these files. -/
def measuredDisk : Disk := ((⟨∅, []⟩ : Disk).put ["r"] .directory).putFiles ["r"] measuredFiles

theorem average_measuredPairs : ∀ m ∈ measuredPairs,
    (RunResult.ofText (resultText m.throughputs)).toOption.map RunResult.average =
      some m.mean := by
  -- The characters are put in place of the text, because evaluation is slow to take it apart.
  simp only [RunResult.ofText, resultText, String.toList_ofList]
  decide +kernel

theorem find_measuredDisk : measuredDisk.find ⟨"r"⟩ = .ok (["r"], .directory) :=
  toOption_eq_some_iff.mp (by decide +kernel)

theorem pairThroughput_measuredDisk {m : MeasuredPair} (hm : m ∈ measuredPairs) :
    measuredDisk.pairThroughput ⟨"r"⟩ m.id = .ok (m.id.variant, m.mean) := by
  have htexts : ∀ m ∈ measuredPairs, (Path.join ⟨"r"⟩ m.id.resultName).textFault? = none := by
    decide +kernel
  have hfile : (m.id.resultName, resultText m.throughputs) ∈ measuredFiles :=
    List.mem_cons_of_mem _ (List.mem_map_of_mem hm)
  have hread : measuredDisk.readText (Path.join ⟨"r"⟩ m.id.resultName) =
      .ok (resultText m.throughputs) :=
    readText_putFiles find_measuredDisk (by decide +kernel) hfile m.id.isEntryName_resultName
      (htexts m hm)
  obtain ⟨result, hresult, haverage⟩ := Option.map_eq_some_iff.mp (average_measuredPairs m hm)
  have hresult' : measuredDisk.readResult (Path.join ⟨"r"⟩ m.id.resultName) = .ok result :=
    bind_eq_ok.mpr
      ⟨_, mapError_eq_ok.mpr hread, mapError_eq_ok.mpr (toOption_eq_some_iff.mp hresult)⟩
  rw [pairThroughput, throughput_eq_map (hread ▸ nofun), hresult', ← haverage]
  rfl

theorem listsResults_measuredDisk : measuredDisk.ListsResults ⟨"r"⟩ (measuredDisk.children ["r"])
    (measuredPairs.map MeasuredPair.id) := by
  obtain ⟨ids, h⟩ := exists_listsResults (list_eq_ok.mpr ⟨["r"], find_measuredDisk, rfl⟩)
  have hperm : (fileKeys PairId.ofResultName? (measuredDisk.children ["r"])).Perm
      (measuredPairs.map MeasuredPair.id) := by decide +kernel
  have hsorted : (measuredPairs.map MeasuredPair.id).Pairwise (· < ·) := by decide
  rwa [← h.sorted.eq_of_mem_iff hsorted fun id => (h.files.trans hperm).mem_iff]

theorem scenarioThroughputs_measuredDisk (scenario : ScenarioId) :
    measuredDisk.scenarioThroughputs ⟨"r"⟩ (measuredPairs.map MeasuredPair.id) scenario =
      .ok ((measuredPairs.filter fun m => m.id.scenario = scenario).map fun m =>
        (m.id.variant, m.mean)) := by
  rw [scenarioThroughputs, pairsOf, List.filter_map, List.mapM_map]
  exact mapM_eq_ok_iff.mpr (List.forall₂_map_right_iff.mpr (List.forall₂_same.mpr fun m hm =>
    pairThroughput_measuredDisk (List.mem_of_mem_filter hm)))

/-- A disk with a directory that has an empty result and another file in it. -/
def emptyResult : Disk :=
  ([(["r"], .directory), (["3_0.txt", "r"], .file .empty false),
    (["03_0.txt", "r"], .file .empty false)] : List (Place × Entry)).foldl
    (fun d (place, entry) => d.put place entry) ⟨∅, []⟩

/-- The summary of the results above, and one that fails. -/
theorem summarize_agrees_measuredDisk :
    (∃ entries, measuredDisk.list ⟨"r"⟩ = .ok entries ∧
      measuredDisk.summarize ⟨"r"⟩ = .ok [⟨⟨0⟩, ⟨9⟩, 3.0, 3⟩, ⟨⟨2⟩, ⟨0⟩, 7.0, 1⟩] ∧
      measuredDisk.SummaryAgrees ⟨"r"⟩ entries [⟨⟨0⟩, ⟨9⟩, 3.0, 3⟩, ⟨⟨2⟩, ⟨0⟩, 7.0, 1⟩] ∧
      measuredDisk.bestVariant ⟨0⟩ ⟨"r"⟩ = .ok (some (⟨9⟩, 3.0)) ∧
      measuredDisk.bestVariant ⟨5⟩ ⟨"r"⟩ = .ok none) ∧
    ∃ entries, emptyResult.list ⟨"r"⟩ = .ok entries ∧
      ∃ id reason, emptyResult.FirstUnreadable ⟨"r"⟩ entries id reason ∧
        emptyResult.bestVariant id.scenario ⟨"r"⟩ = .error (.result reason) := by
  refine ⟨?_, ?_⟩
  · have hlist := list_eq_ok.mpr ⟨["r"], find_measuredDisk, rfl⟩
    have hsummary : measuredDisk.summarize ⟨"r"⟩ =
        .ok [⟨⟨0⟩, ⟨9⟩, 3.0, 3⟩, ⟨⟨2⟩, ⟨0⟩, 7.0, 1⟩] := by
      rw [listsResults_measuredDisk.summarize_eq]
      simp only [scenarioThroughputs_measuredDisk]
      exact toOption_eq_some_iff.mp (by decide +kernel)
    have hagrees := (summarize_agrees hlist).1 _ hsummary
    exact ⟨_, hlist, hsummary, hagrees, (hagrees.some_iff _ _ _).mpr ⟨_, .head _, rfl, rfl, rfl⟩,
      (hagrees.none_iff _).mpr (by decide +kernel)⟩
  · have hnone : (emptyResult.summarize ⟨"r"⟩).toOption.isNone = true := by decide +kernel
    have hfind : emptyResult.find ⟨"r"⟩ = .ok (["r"], .directory) :=
      toOption_eq_some_iff.mp (by decide +kernel)
    have hlist := list_eq_ok.mpr ⟨["r"], hfind, rfl⟩
    obtain ⟨-, -, hfails, hfirst⟩ := summarize_agrees hlist
    cases h : emptyResult.summarize ⟨"r"⟩ with
    | ok bests =>
      rw [h] at hnone
      cases hnone
    | error fault =>
      obtain ⟨id, reason, hunreadable, rfl⟩ := (hfails fault).mp h
      exact ⟨_, hlist, id, reason, hunreadable, (hfirst id reason hunreadable).1⟩

end RackTraffic.Disk
