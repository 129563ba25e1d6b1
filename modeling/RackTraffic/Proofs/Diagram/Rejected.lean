import RackTraffic.Diagram.Drawing
import RackTraffic.Proofs.Disk.AllOrNothing
import RackTraffic.Proofs.Matrix.Connections

/-!
# Which diagrams are refused

A diagram is refused for the same racks as link matrices are: the check that goes before a drawing
meets the racks in the order in which they are marked (`map_markFlows`), so it reports the first
rack that does not exist, too (`checkRacks_eq_error_iff`).

**Theorem (`AllocationLog.draw_refuses`).** A layout without racks in its rows is refused. On any
other, drawing an allocation and making its matrices fail for the same rack. Whatever the failure
is, the disk is left as it was: nothing is written before there is a diagram, and writing is all or
nothing.
-/

namespace RackTraffic

variable {rackCount : UInt64} {layout : Layout} {log : AllocationLog} {path : Path} {d e : Disk}

/-! ## The same racks are looked at -/

/-- Marking flows checks their racks on the way. -/
theorem map_markFlows (flows : List AllocatedFlow)
    (present wireless : LinkMatrix rackCount.toNat) :
    (markFlows rackCount flows present wireless).map (fun _ => ()) =
      checkRacks rackCount flows := by
  induction flows generalizing present wireless with
  | nil => rfl
  | cons allocated flows ih =>
    rw [markFlows, checkRacks]
    cases allocated.flow.ends rackCount with
    | error fault => rfl
    | ok places => exact ih _ _

theorem checkRacks_eq_ok_iff {flows : List AllocatedFlow} :
    checkRacks rackCount flows = .ok () ↔
      ∀ allocated ∈ flows, allocated.flow.Within rackCount := by
  rw [← map_markFlows flows (.empty _) (.empty _), map_eq_ok]
  constructor
  · rintro ⟨marked, hmarked, -⟩
    exact within_of_markFlows hmarked
  · intro hwithin
    obtain ⟨present, wireless, hmarked, -⟩ := markFlows_eq_ok hwithin (.empty _) (.empty _)
    exact ⟨_, hmarked, rfl⟩

/-- The first rack that does not exist is reported. -/
theorem checkRacks_eq_error_iff {flows : List AllocatedFlow} {fault : Malformed} :
    checkRacks rackCount flows = .error fault ↔
      ∃ rack, FirstOutside rackCount flows rack ∧ fault = .rackOutOfRange rack rackCount := by
  rw [← map_markFlows flows (.empty _) (.empty _), map_eq_error]
  constructor
  · intro hfault
    rcases forall_within_or_firstOutside rackCount flows with hwithin | ⟨rack, hfirst⟩
    · obtain ⟨present, wireless, hmarked, -⟩ := markFlows_eq_ok hwithin (.empty _) (.empty _)
      rw [hmarked] at hfault
      cases hfault
    · rw [markFlows_eq_error hfirst] at hfault
      exact ⟨rack, hfirst, (Except.error.inj hfault).symm⟩
  · rintro ⟨rack, hfirst, rfl⟩
    exact markFlows_eq_error hfirst _ _

theorem AllocationLog.connections_eq_malformed_iff {fault : Malformed}
    (hstorable : storable [rackCount.toNat, rackCount.toNat] = true) :
    log.connections rackCount = .error (.malformed fault) ↔
      checkRacks rackCount log.flows = .error fault := by
  rw [connections, if_pos hstorable, ← map_markFlows log.flows (.empty _) (.empty _), map_eq_error]
  cases markFlows rackCount log.flows (.empty _) (.empty _) <;> simp

/-! ## Diagrams -/

theorem AllocationLog.diagram_of_emptyRows (h : layout.racksPerRow = 0) :
    log.diagram rackCount layout = .error .emptyRows := by
  rw [diagram, if_pos h]
  rfl

/-- On a layout with racks in its rows the racks of the flows are checked first. -/
theorem AllocationLog.diagram_eq (h : layout.racksPerRow ≠ 0) :
    log.diagram rackCount layout = match checkRacks rackCount log.flows with
      | .error fault => .error (.malformed fault)
      | .ok () => match layout.canvas? rackCount.toNat with
        | none => .error .beyondLimits
        | some (width, height) =>
          .ok ⟨width, height, Diagram.elementsOf layout rackCount.toNat log.flows⟩ := by
  rw [diagram, if_neg h]
  cases checkRacks rackCount log.flows with
  | error fault => rfl
  | ok =>
    cases layout.canvas? rackCount.toNat <;> rfl

/-- Drawing is writing the diagram, if there is one. -/
theorem AllocationLog.draw_eq (log : AllocationLog) (rackCount : UInt64) (layout : Layout)
    (path : Path) (d : Disk) :
    log.draw rackCount layout path d = match log.diagram rackCount layout with
      | .error fault => (.error fault, d)
      | .ok diagram => (Disk.writeAtomic path diagram.svg).mapFailure .io d := by
  rw [draw, DiskAction.bind_apply]
  cases log.diagram rackCount layout <;> rfl

/-! ## Refusals -/

theorem AllocationLog.diagram_eq_emptyRows_iff :
    log.diagram rackCount layout = .error .emptyRows ↔ layout.racksPerRow = 0 := by
  by_cases hrows : layout.racksPerRow = 0
  · simp [diagram_of_emptyRows hrows, hrows]
  · rw [diagram_eq hrows]
    split
    · simp [hrows]
    · split <;> simp [hrows]

theorem AllocationLog.diagram_eq_malformed_iff {fault : Malformed} (h : layout.racksPerRow ≠ 0) :
    log.diagram rackCount layout = .error (.malformed fault) ↔
      checkRacks rackCount log.flows = .error fault := by
  rw [diagram_eq h]
  split
  · next hcheck => simp [hcheck]
  · next hcheck =>
    rw [hcheck]
    split <;> simp

/-- What is no failure of the disk is a refusal of the diagram. -/
theorem AllocationLog.draw_eq_error_iff {fault : DiagramFault} (h : ∀ error, fault ≠ .io error) :
    (log.draw rackCount layout path d).1 = .error fault ↔
      log.diagram rackCount layout = .error fault := by
  rw [draw_eq]
  cases log.diagram rackCount layout with
  | error fault' => simp
  | ok diagram =>
    simp only [DiskAction.mapFailure_apply, mapError_eq_error, reduceCtorEq, iff_false]
    rintro ⟨error, -, rfl⟩
    exact h error rfl

/-- A drawing that fails has not changed the disk. -/
theorem AllocationLog.eq_of_draw_eq_error {fault : DiagramFault}
    (h : log.draw rackCount layout path d = (.error fault, e)) : e = d := by
  rw [draw_eq] at h
  cases hdiagram : log.diagram rackCount layout with
  | error fault' =>
    rw [hdiagram] at h
    exact (congrArg Prod.snd h).symm
  | ok diagram =>
    rw [hdiagram] at h
    obtain ⟨error, hwrite, -⟩ := DiskAction.mapFailure_eq_error.mp h
    rw [Disk.writeAtomic_eq] at hwrite
    exact Disk.eq_of_writeThrough_eq_error Disk.picksFresh_freshName? hwrite

/-- **Refused drawings.** Without racks in a row there is no diagram. Otherwise an allocation is
refused just if it has no matrices, and the same rack is named: the first one that does not exist. A
drawing that fails, for these reasons or because the file cannot be written, leaves the disk as it
was. -/
theorem AllocationLog.draw_refuses {rackCount : UInt64}
    (hstorable : storable [rackCount.toNat, rackCount.toNat] = true) (log : AllocationLog)
    (layout : Layout) (path : Path) (d : Disk) :
    ((log.draw rackCount layout path d).1 = .error .emptyRows ↔ layout.racksPerRow = 0) ∧
    (layout.racksPerRow ≠ 0 → ∀ fault,
      ((log.draw rackCount layout path d).1 = .error (.malformed fault) ↔
        log.connections rackCount = .error (.malformed fault)) ∧
      (log.connections rackCount = .error (.malformed fault) ↔
        ∃ rack, FirstOutside rackCount log.flows rack ∧ fault = .rackOutOfRange rack rackCount)) ∧
    ∀ fault e, log.draw rackCount layout path d = (.error fault, e) → e = d := by
  refine ⟨?_, fun hrows fault => ⟨?_, ?_⟩, fun fault e => eq_of_draw_eq_error⟩
  · exact (draw_eq_error_iff (by simp)).trans diagram_eq_emptyRows_iff
  · rw [draw_eq_error_iff (by simp), diagram_eq_malformed_iff hrows,
      connections_eq_malformed_iff hstorable]
  · rw [connections_eq_malformed_iff hstorable, checkRacks_eq_error_iff]

/-- The second of two racks is missing from the matrices and from the diagram over one rack, and an
older diagram stays. -/
theorem AllocationLog.draw_refuses_crossed :
    storable [(1 : UInt64).toNat, (1 : UInt64).toNat] = true ∧
    crossedFlows.connections 1 = .error (.malformed (.rackOutOfRange ⟨1⟩ 1)) ∧
    ∀ d : Disk, crossedFlows.draw 1 {} ⟨"a.svg"⟩ d =
      (.error (.malformed (.rackOutOfRange ⟨1⟩ 1)), d) := by
  have hstorable : storable [(1 : UInt64).toNat, (1 : UInt64).toNat] = true := by decide +kernel
  have hfirst : FirstOutside 1 crossedFlows.flows ⟨1⟩ := firstOutside_iff.mpr (by decide +kernel)
  refine ⟨hstorable, connections_eq_error hstorable hfirst, fun d => ?_⟩
  obtain ⟨-, hsame, hunchanged⟩ :=
    AllocationLog.draw_refuses hstorable crossedFlows {} ⟨"a.svg"⟩ d
  obtain ⟨hdraw, hmatrix⟩ := hsame (by decide) (.rackOutOfRange ⟨1⟩ 1)
  have hfault := hdraw.mpr (hmatrix.mpr ⟨_, hfirst, rfl⟩)
  exact Prod.ext hfault (hunchanged _ _ (Prod.ext hfault rfl))

end RackTraffic
