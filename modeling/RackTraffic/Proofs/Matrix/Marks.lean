import Mathlib.Data.List.Dedup
import Mathlib.Data.List.Perm.Basic
import RackTraffic.Matrix.Basic
import RackTraffic.Proofs.Fallible

/-!
# What the matrices of an allocation mark

The matrices of an allocation exist if all its racks do (`AllocationLog.connections_eq_ok`) and only
then (`AllocationLog.exists_connections_iff`), and they mark just the cells of its flows (`Marks`):
the recursion over the flows keeps what is marked and adds the cell of one flow after the other.

A cell that is marked twice is one mark, so there are as many marks as there are different cells of
wireless flows (`countP_eq_length_dedup_wirelessCells`): at most one for each flow, and one for each
if no two of them lead between the same racks.
-/

namespace RackTraffic

/-! ## Cells -/

namespace LinkMatrix

variable {n : Nat}

/-- Every number below the number of cells is the place of a cell. -/
theorem exists_index {cell : Nat} (h : cell < n * n) : ∃ i j : Fin n, index i j = cell := by
  have hn : 0 < n := Nat.pos_of_ne_zero fun h0 => by simp [h0] at h
  refine ⟨⟨cell / n, Nat.div_lt_of_lt_mul h⟩, ⟨cell % n, Nat.mod_lt _ hn⟩, ?_⟩
  rw [index, Nat.mul_comm, Nat.div_add_mod]

theorem getElem?_toList_cells (m : LinkMatrix n) (i j : Fin n) :
    m.cells.toList[index i j]? = some (m.get i j) := by
  rw [List.getElem?_eq_getElem (by simpa using index_lt i j), Vector.getElem_toList]
  rfl

end LinkMatrix

/-- A flow leads from one place to another. -/
def Flow.Leads (flow : Flow) (i j : Nat) : Prop :=
  flow.source.index.toNat = i ∧ flow.destination.index.toNat = j

instance (flow : Flow) (i j : Nat) : Decidable (flow.Leads i j) :=
  inferInstanceAs (Decidable (_ ∧ _))

/-- Both ends of a flow are among `rackCount` racks. -/
structure Flow.Within (rackCount : UInt64) (flow : Flow) : Prop where
  source : flow.source.index < rackCount
  destination : flow.destination.index < rackCount

instance (rackCount : UInt64) (flow : Flow) : Decidable (flow.Within rackCount) :=
  decidable_of_iff (flow.source.index < rackCount ∧ flow.destination.index < rackCount)
    ⟨fun h => ⟨h.1, h.2⟩, fun h => ⟨h.source, h.destination⟩⟩

/-- The places of the ends of a flow. -/
theorem Flow.Within.exists_places {rackCount : UInt64} {flow : Flow} (h : flow.Within rackCount) :
    ∃ i j : Fin rackCount.toNat, flow.ends rackCount = .ok (i, j) ∧ flow.Leads i j := by
  refine ⟨⟨flow.source.index.toNat, h.source⟩, ⟨flow.destination.index.toNat, h.destination⟩, ?_,
    rfl, rfl⟩
  rw [ends, Rack.place, Rack.place, dif_pos h.source, dif_pos h.destination]
  rfl

theorem Flow.Leads.iff {flow : Flow} {n : Nat} {i j : Fin n} (h : flow.Leads i j) (k l : Fin n) :
    flow.Leads k l ↔ i = k ∧ j = l := by
  rw [Fin.ext_iff, Fin.ext_iff, ← h.1, ← h.2, Leads]

/-! ## Marks -/

/-- One matrix marks the cells of all flows, the other those of the wireless ones. -/
structure Marks (n : Nat) (flows : List AllocatedFlow) (present wireless : LinkMatrix n) :
    Prop where
  present : ∀ i j : Fin n, present.get i j = true ↔
    ∃ allocated ∈ flows, allocated.flow.Leads i j
  wireless : ∀ i j : Fin n, wireless.get i j = true ↔
    ∃ allocated ∈ flows, allocated.link.isWireless = true ∧ allocated.flow.Leads i j

variable {rackCount : UInt64} {n : Nat} {flows : List AllocatedFlow}

theorem Marks.get_present {present wireless : LinkMatrix n} (h : Marks n flows present wireless)
    (i j : Fin n) : present.get i j = decide (∃ allocated ∈ flows, allocated.flow.Leads i j) := by
  rw [Bool.eq_iff_iff, h.present, decide_eq_true_eq]

theorem Marks.get_wireless {present wireless : LinkMatrix n} (h : Marks n flows present wireless)
    (i j : Fin n) : wireless.get i j =
      decide (∃ allocated ∈ flows,
        allocated.link.isWireless = true ∧ allocated.flow.Leads i j) := by
  rw [Bool.eq_iff_iff, h.wireless, decide_eq_true_eq]

/-- Marking flows keeps the marks that are there and adds those of the flows. -/
theorem markFlows_eq_ok (h : ∀ allocated ∈ flows, allocated.flow.Within rackCount)
    (present wireless : LinkMatrix rackCount.toNat) : ∃ present' wireless',
    markFlows rackCount flows present wireless = .ok (present', wireless') ∧
      (∀ i j : Fin rackCount.toNat, present'.get i j = true ↔ present.get i j = true ∨
        ∃ allocated ∈ flows, allocated.flow.Leads i j) ∧
      (∀ i j : Fin rackCount.toNat, wireless'.get i j = true ↔ wireless.get i j = true ∨
        ∃ allocated ∈ flows, allocated.link.isWireless = true ∧ allocated.flow.Leads i j) := by
  induction flows generalizing present wireless with
  | nil => exact ⟨present, wireless, rfl, by simp, by simp⟩
  | cons allocated flows ih =>
    obtain ⟨hfirst, hrest⟩ := List.forall_mem_cons.mp h
    obtain ⟨i, j, hends, hleads⟩ := hfirst.exists_places
    obtain ⟨present', wireless', hmark, hpresent, hwireless⟩ := ih hrest (present.mark i j)
      (if allocated.link.isWireless then wireless.mark i j else wireless)
    refine ⟨present', wireless', ?_, fun k l => ?_, fun k l => ?_⟩
    · rw [markFlows, hends]
      exact hmark
    · rw [hpresent, LinkMatrix.get_mark, List.exists_mem_cons_iff, hleads.iff]
      by_cases hcell : i = k ∧ j = l <;> simp [hcell]
    · rw [hwireless, List.exists_mem_cons_iff, hleads.iff]
      by_cases hlink : allocated.link.isWireless = true <;> by_cases hcell : i = k ∧ j = l <;>
        simp [hlink, hcell, LinkMatrix.get_mark]

/-- The matrices of an allocation exist if its racks do and the matrices can be stored. -/
theorem AllocationLog.connections_eq_ok {log : AllocationLog}
    (hstorable : storable [rackCount.toNat, rackCount.toNat] = true)
    (h : ∀ allocated ∈ log.flows, allocated.flow.Within rackCount) : ∃ present wireless,
    log.connections rackCount = .ok ⟨_, present, wireless⟩ ∧
      Marks rackCount.toNat log.flows present wireless := by
  obtain ⟨present, wireless, hmark, hpresent, hwireless⟩ := markFlows_eq_ok h (.empty _) (.empty _)
  refine ⟨present, wireless, ?_, ⟨fun i j => ?_, fun i j => ?_⟩⟩
  · rw [connections, if_pos hstorable, hmark]
  · simp [hpresent]
  · simp [hwireless]

theorem Rack.lt_of_place {rack : Rack} {i : Fin rackCount.toNat}
    (h : rack.place rackCount = .ok i) : rack.index < rackCount := by
  unfold place at h
  split_ifs at h with hlt
  exact hlt

theorem Flow.within_of_ends {flow : Flow} {places : Fin rackCount.toNat × Fin rackCount.toNat}
    (h : flow.ends rackCount = .ok places) : flow.Within rackCount := by
  obtain ⟨i, hsource, h⟩ := bind_eq_ok.mp h
  obtain ⟨j, hdestination, -⟩ := bind_eq_ok.mp h
  exact ⟨Rack.lt_of_place hsource, Rack.lt_of_place hdestination⟩

/-- Flows with a rack that does not exist are not marked. -/
theorem within_of_markFlows {present wireless : LinkMatrix rackCount.toNat}
    {marked : LinkMatrix rackCount.toNat × LinkMatrix rackCount.toNat}
    (h : markFlows rackCount flows present wireless = .ok marked) :
    ∀ allocated ∈ flows, allocated.flow.Within rackCount := by
  induction flows generalizing present wireless with
  | nil => nofun
  | cons allocated flows ih =>
    obtain ⟨places, hends, hrest⟩ := bind_eq_ok.mp h
    exact List.forall_mem_cons.mpr ⟨Flow.within_of_ends hends, ih hrest⟩

theorem AllocationLog.exists_connections_iff {log : AllocationLog}
    (hstorable : storable [rackCount.toNat, rackCount.toNat] = true) :
    (∃ c, log.connections rackCount = .ok c) ↔
      ∀ allocated ∈ log.flows, allocated.flow.Within rackCount := by
  constructor
  · rintro ⟨c, h⟩
    rw [connections, if_pos hstorable] at h
    cases hmark : markFlows rackCount log.flows (.empty _) (.empty _) with
    | ok marked => exact within_of_markFlows hmark
    | error fault =>
      rw [hmark] at h
      cases h
  · intro h
    obtain ⟨present, wireless, hlog, -⟩ := connections_eq_ok hstorable h
    exact ⟨_, hlog⟩

/-! ## How many marks there are -/

/-- The place of the cell of a flow. -/
def Flow.cell (n : Nat) (flow : Flow) : Nat :=
  flow.source.index.toNat * n + flow.destination.index.toNat

theorem Flow.Leads.cell_eq {flow : Flow} {i j : Fin n} (h : flow.Leads i j) :
    flow.cell n = LinkMatrix.index i j := by
  rw [cell, h.1, h.2, LinkMatrix.index]

/-- Flows with one cell lead between the same racks. -/
theorem Flow.eq_of_cell_eq {flow flow' : Flow} (h : flow.Within rackCount)
    (h' : flow'.Within rackCount) (heq : flow.cell rackCount.toNat = flow'.cell rackCount.toNat) :
    flow.source = flow'.source ∧ flow.destination = flow'.destination := by
  obtain ⟨i, j, -, hleads⟩ := h.exists_places
  obtain ⟨k, l, -, hleads'⟩ := h'.exists_places
  rw [hleads.cell_eq, hleads'.cell_eq] at heq
  obtain ⟨rfl, rfl⟩ := LinkMatrix.index_inj heq
  have hsource := UInt64.toNat_inj.mp (hleads.1.trans hleads'.1.symm)
  have hdestination := UInt64.toNat_inj.mp (hleads.2.trans hleads'.2.symm)
  cases flow
  cases flow'
  exact ⟨congrArg Rack.mk hsource, congrArg Rack.mk hdestination⟩

/-- The cells of the wireless ones of some flows. -/
def wirelessCells (n : Nat) (flows : List AllocatedFlow) : List Nat :=
  (flows.filter (·.link.isWireless)).map (·.flow.cell n)

theorem length_wirelessCells (n : Nat) (flows : List AllocatedFlow) :
    (wirelessCells n flows).length = flows.countP (·.link.isWireless) := by
  rw [wirelessCells, List.length_map, List.countP_eq_length_filter]

/-- If the cells of wireless flows are marked and no others, each cell of a wireless flow is one
mark. -/
theorem countP_eq_length_dedup_wirelessCells {mark : Nat → Bool}
    (hmark : ∀ i j : Fin rackCount.toNat, mark (LinkMatrix.index i j) = true ↔
      ∃ allocated ∈ flows, allocated.link.isWireless = true ∧ allocated.flow.Leads i j)
    (hwithin : ∀ allocated ∈ flows, allocated.flow.Within rackCount) :
    (List.range (rackCount.toNat * rackCount.toNat)).countP mark =
      (wirelessCells rackCount.toNat flows).dedup.length := by
  rw [List.countP_eq_length_filter]
  refine List.Perm.length_eq ((List.perm_ext_iff_of_nodup (List.nodup_range.filter _)
    (List.nodup_dedup _)).mpr fun cell => ?_)
  simp only [List.mem_filter, List.mem_range, List.mem_dedup, wirelessCells, List.mem_map]
  constructor
  · rintro ⟨hcell, hmarked⟩
    obtain ⟨i, j, rfl⟩ := LinkMatrix.exists_index hcell
    obtain ⟨allocated, hmem, hlink, hleads⟩ := (hmark i j).mp hmarked
    exact ⟨allocated, ⟨hmem, hlink⟩, hleads.cell_eq⟩
  · rintro ⟨allocated, ⟨hmem, hlink⟩, rfl⟩
    obtain ⟨i, j, -, hleads⟩ := (hwithin allocated hmem).exists_places
    rw [hleads.cell_eq]
    exact ⟨LinkMatrix.index_lt i j, (hmark i j).mpr ⟨allocated, hmem, hlink, hleads⟩⟩

/-- There are no more cells of wireless flows than wireless flows. -/
theorem length_dedup_wirelessCells_le (n : Nat) (flows : List AllocatedFlow) :
    (wirelessCells n flows).dedup.length ≤ flows.countP (·.link.isWireless) := by
  rw [← length_wirelessCells n flows]
  exact (List.dedup_sublist _).length_le

/-- A wireless flow has a cell. -/
theorem length_dedup_wirelessCells_pos (n : Nat) (h : 0 < flows.countP (·.link.isWireless)) :
    0 < (wirelessCells n flows).dedup.length := by
  rw [← length_wirelessCells n flows] at h
  obtain ⟨cell, hcell⟩ := List.exists_mem_of_length_pos h
  exact List.length_pos_of_mem (List.mem_dedup.mpr hcell)

/-- Flows that lead between different pairs of racks have different cells. -/
theorem length_dedup_wirelessCells (hwithin : ∀ allocated ∈ flows, allocated.flow.Within rackCount)
    (hdistinct : flows.Pairwise fun a b =>
      (a.flow.source, a.flow.destination) ≠ (b.flow.source, b.flow.destination)) :
    (wirelessCells rackCount.toNat flows).dedup.length = flows.countP (·.link.isWireless) := by
  rw [← length_wirelessCells rackCount.toNat flows, List.Nodup.dedup]
  refine List.pairwise_map.mpr ((hdistinct.filter _).imp_of_mem fun {a b} ha hb hne heq => hne ?_)
  obtain ⟨hsource, hdestination⟩ := Flow.eq_of_cell_eq (hwithin a (List.mem_filter.mp ha).1)
    (hwithin b (List.mem_filter.mp hb).1) heq
  rw [hsource, hdestination]

end RackTraffic
