import RackTraffic.Proofs.Matrix.Marks

/-!
# The matrices of an allocation

The racks of the flows are looked at one after the other, the source of a flow before its
destination (`racksOf`). The first of them that does not exist is reported (`markFlows_eq_error`),
and if all of them exist the cells of all flows are marked. So an allocation has matrices, or there
is a first rack that does not exist, and never both.

What is marked depends on which flows there are and not on their order or number (`Marks.unique`),
because a matrix is known by its cells (`LinkMatrix.ext_get`).

Main result: `AllocationLog.connections_exact`.
-/

namespace RackTraffic

variable {rackCount : UInt64} {n : Nat} {flows flows' : List AllocatedFlow} {rack : Rack}

/-! ## Racks that do not exist -/

/-- The racks of some flows in their order, each source before the destination. -/
def racksOf (flows : List AllocatedFlow) : List Rack :=
  flows.flatMap fun allocated => [allocated.flow.source, allocated.flow.destination]

/-- The first of the racks of some flows that is not one of `rackCount` racks. -/
structure FirstOutside (rackCount : UInt64) (flows : List AllocatedFlow) (rack : Rack) : Prop where
  outside : rackCount ≤ rack.index
  first : ∃ before after, racksOf flows = before ++ rack :: after ∧
    ∀ earlier ∈ before, earlier.index < rackCount

theorem firstOutside_iff : FirstOutside rackCount flows rack ↔
    (racksOf flows).find? (rackCount ≤ ·.index) = some rack := by
  rw [List.find?_eq_some_iff_append]
  simp only [decide_eq_true_eq, Bool.not_eq_eq_eq_not, Bool.not_true, decide_eq_false_iff_not,
    UInt64.not_le]
  exact ⟨fun ⟨h, hfirst⟩ => ⟨h, hfirst⟩, fun ⟨h, hfirst⟩ => ⟨h, hfirst⟩⟩

/-- All racks exist, or there is a first that does not. -/
theorem forall_within_or_firstOutside (rackCount : UInt64) (flows : List AllocatedFlow) :
    (∀ allocated ∈ flows, allocated.flow.Within rackCount) ∨
      ∃ rack, FirstOutside rackCount flows rack := by
  cases hfind : (racksOf flows).find? (rackCount ≤ ·.index) with
  | some rack => exact .inr ⟨rack, firstOutside_iff.mpr hfind⟩
  | none =>
    refine .inl fun allocated hmem => ?_
    have hinside : ∀ rack ∈ [allocated.flow.source, allocated.flow.destination],
        rack.index < rackCount := by
      intro rack hrack
      simpa using List.find?_eq_none.mp hfind rack (List.mem_flatMap.mpr ⟨allocated, hmem, hrack⟩)
    exact ⟨hinside _ (by simp), hinside _ (by simp)⟩

/-- The first rack that does not exist is one of the first flow, which then has no places, or the
first flow has places and the rack is the first outside among the others. -/
theorem FirstOutside.cases_cons {allocated : AllocatedFlow}
    (h : FirstOutside rackCount (allocated :: flows) rack) :
    allocated.flow.ends rackCount = .error (.rackOutOfRange rack rackCount) ∨
      allocated.flow.Within rackCount ∧ FirstOutside rackCount flows rack := by
  rw [firstOutside_iff, racksOf, List.flatMap_cons, List.cons_append, List.cons_append,
    List.nil_append] at h
  by_cases hsource : allocated.flow.source.index < rackCount
  · rw [List.find?_cons_of_neg (by simpa using hsource)] at h
    by_cases hdestination : allocated.flow.destination.index < rackCount
    · rw [List.find?_cons_of_neg (by simpa using hdestination)] at h
      exact .inr ⟨⟨hsource, hdestination⟩, firstOutside_iff.mpr h⟩
    · rw [List.find?_cons_of_pos (by simpa using hdestination)] at h
      obtain rfl := Option.some.inj h
      left
      rw [Flow.ends, Rack.place, Rack.place, dif_pos hsource, dif_neg hdestination]
      rfl
  · rw [List.find?_cons_of_pos (by simpa using hsource)] at h
    obtain rfl := Option.some.inj h
    left
    rw [Flow.ends, Rack.place, dif_neg hsource]
    rfl

/-- The first rack that does not exist is reported. -/
theorem markFlows_eq_error (h : FirstOutside rackCount flows rack)
    (present wireless : LinkMatrix rackCount.toNat) :
    markFlows rackCount flows present wireless = .error (.rackOutOfRange rack rackCount) := by
  induction flows generalizing present wireless with
  | nil => cases firstOutside_iff.mp h
  | cons allocated flows ih =>
    rcases h.cases_cons with hends | ⟨hwithin, hrest⟩
    · rw [markFlows, hends]
      rfl
    · obtain ⟨i, j, hends, -⟩ := hwithin.exists_places
      rw [markFlows, hends]
      exact ih hrest _ _

theorem AllocationLog.connections_eq_error {log : AllocationLog}
    (hstorable : storable [rackCount.toNat, rackCount.toNat] = true)
    (h : FirstOutside rackCount log.flows rack) :
    log.connections rackCount = .error (.malformed (.rackOutOfRange rack rackCount)) := by
  rw [connections, if_pos hstorable, markFlows_eq_error h]

/-! ## What is marked -/

/-- A matrix is known by its cells. -/
theorem LinkMatrix.ext_get {m m' : LinkMatrix n} (h : ∀ i j, m.get i j = m'.get i j) : m = m' := by
  obtain ⟨cells⟩ := m
  obtain ⟨cells'⟩ := m'
  refine congrArg LinkMatrix.mk (Vector.ext fun cell hcell => ?_)
  obtain ⟨i, j, rfl⟩ := exists_index hcell
  exact h i j

/-- The order and the number of flows do not matter. -/
theorem Marks.unique {present present' wireless wireless' : LinkMatrix n}
    (h : Marks n flows present wireless) (h' : Marks n flows' present' wireless')
    (hsame : ∀ allocated, allocated ∈ flows ↔ allocated ∈ flows') :
    present = present' ∧ wireless = wireless' := by
  refine ⟨LinkMatrix.ext_get fun i j => ?_, LinkMatrix.ext_get fun i j => ?_⟩
  · simp only [h.get_present, h'.get_present, hsame]
  · simp only [h.get_wireless, h'.get_wireless, hsame]

/-- **The matrices of an allocation.** If the matrices can be stored, an allocation has them just if
all racks of its flows exist. Then

* one marks the cells of all flows and no others, the other those of the wireless flows, so that
  what is marked in the second is marked in the first;
* every other allocation with the same flows, in any order and number, has the same matrices.

Otherwise the first rack that does not exist is reported, in the order of the flows and the source
of a flow before its destination. -/
theorem AllocationLog.connections_exact {rackCount : UInt64}
    (hstorable : storable [rackCount.toNat, rackCount.toNat] = true) (log : AllocationLog) :
    ((∃ c, log.connections rackCount = .ok c) ↔
      ∀ allocated ∈ log.flows, allocated.flow.Within rackCount) ∧
    (∀ c, log.connections rackCount = .ok c → ∃ present wireless,
      c = ⟨rackCount.toNat, present, wireless⟩ ∧
        Marks rackCount.toNat log.flows present wireless ∧
        (∀ i j, wireless.get i j = true → present.get i j = true) ∧
        ∀ other : AllocationLog, (∀ allocated, allocated ∈ log.flows ↔ allocated ∈ other.flows) →
          other.connections rackCount = .ok c) ∧
    ∀ fault, log.connections rackCount = .error fault ↔
      ∃ rack, FirstOutside rackCount log.flows rack ∧
        fault = .malformed (.rackOutOfRange rack rackCount) := by
  refine ⟨exists_connections_iff hstorable, fun c hc => ?marked, fun fault => ?reported⟩
  case marked =>
    have hwithin := (exists_connections_iff hstorable).mp ⟨c, hc⟩
    obtain ⟨present, wireless, hconnections, hmarks⟩ := connections_eq_ok hstorable hwithin
    obtain rfl := Except.ok.inj (hconnections.symm.trans hc)
    refine ⟨present, wireless, rfl, hmarks, fun i j hmark => ?_, fun other hsame => ?_⟩
    · obtain ⟨allocated, hmem, -, hleads⟩ := (hmarks.wireless i j).mp hmark
      exact (hmarks.present i j).mpr ⟨allocated, hmem, hleads⟩
    · obtain ⟨present', wireless', hother, hmarks'⟩ := connections_eq_ok hstorable
        fun allocated hmem => hwithin allocated ((hsame allocated).mpr hmem)
      obtain ⟨rfl, rfl⟩ := hmarks.unique hmarks' hsame
      exact hother
  case reported =>
    constructor
    · intro hfault
      rcases forall_within_or_firstOutside rackCount log.flows with hwithin | ⟨rack, hfirst⟩
      · obtain ⟨c, hc⟩ := (exists_connections_iff hstorable).mpr hwithin
        rw [hc] at hfault
        cases hfault
      · rw [connections_eq_error hstorable hfirst] at hfault
        exact ⟨rack, hfirst, (Except.error.inj hfault).symm⟩
    · rintro ⟨rack, hfirst, rfl⟩
      exact connections_eq_error hstorable hfirst

/-- A pair of racks that has a wired flow after a wireless one, and a flow of neither kind from a
rack to itself. -/
def crossedFlows : AllocationLog :=
  let flow (source destination : UInt64) : Flow :=
    ⟨0, ⟨source⟩, ⟨destination⟩, .tcp, ⟨1⟩, ⟨1⟩⟩
  ⟨⟨0⟩, ⟨0⟩, [⟨flow 0 1, .wireless⟩, ⟨flow 0 1, .wired⟩, ⟨flow 1 1, .ofCode 7⟩]⟩

/-- Of two racks both exist. Of one rack the second does not. -/
theorem AllocationLog.connections_exact_crossed :
    storable [(2 : UInt64).toNat, (2 : UInt64).toNat] = true ∧
    (∃ present wireless, crossedFlows.connections 2 = .ok ⟨2, present, wireless⟩ ∧
      present.rows = [[false, true], [false, true]] ∧
      wireless.rows = [[false, true], [false, false]] ∧
      AllocationLog.connections ⟨⟨5⟩, ⟨6⟩, crossedFlows.flows.reverse ++ crossedFlows.flows⟩ 2 =
        .ok ⟨2, present, wireless⟩) ∧
    crossedFlows.connections 1 = .error (.malformed (.rackOutOfRange ⟨1⟩ 1)) := by
  have hstorable : storable [(2 : UInt64).toNat, (2 : UInt64).toNat] = true := by decide +kernel
  obtain ⟨hexists, hmarked, -⟩ := AllocationLog.connections_exact hstorable crossedFlows
  obtain ⟨c, hc⟩ := hexists.mpr (by decide +kernel)
  obtain ⟨present, wireless, rfl, hmarks, -, hsame⟩ := hmarked c hc
  refine ⟨hstorable, ⟨present, wireless, hc, ?_, ?_, hsame _ (by simp)⟩, ?_⟩
  · simp only [LinkMatrix.rows, hmarks.get_present]
    decide +kernel
  · simp only [LinkMatrix.rows, hmarks.get_wireless]
    decide +kernel
  · have hfirst : FirstOutside 1 crossedFlows.flows ⟨1⟩ := firstOutside_iff.mpr (by decide +kernel)
    exact ((AllocationLog.connections_exact (by decide +kernel) crossedFlows).2.2 _).mpr
      ⟨⟨1⟩, hfirst, rfl⟩

end RackTraffic
