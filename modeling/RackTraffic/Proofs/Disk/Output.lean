import RackTraffic.Disk.Output
import RackTraffic.Proofs.Disk.Agreement

/-!
# What making output directories does

A directory that is there already is used as it is (`prepareOutput_of_isDirectory`). In any case
what is on the disk stays there (`grows_prepareOutput`): only directories are added, where nothing
was.
-/

namespace RackTraffic.Disk

variable {d d' d'' : Disk} {path : Path} {place : Place}

theorem contains_of_isDirectory (h : d.isDirectory path = true) : d.contains path = true := by
  unfold isDirectory at h
  unfold contains
  cases hfind : (d.find path).toOption <;> simp_all

/-- A directory that is there is used as it is, if that is allowed. -/
theorem prepareOutput_of_isDirectory (h : d.isDirectory path = true) :
    prepareOutput path true d = (.ok (), d) := by
  simp [prepareOutput, contains_of_isDirectory h, h, DiskAction.bind_apply, DiskAction.get_apply,
    DiskAction.pure_apply]

/-! ## Disks that grow -/

/-- Everything on a disk is still there on another. -/
structure Grows (d d' : Disk) : Prop where
  current : d.current = d'.current
  at?_eq : ∀ place entry, d.at? place = some entry → d'.at? place = some entry

theorem Grows.refl (d : Disk) : d.Grows d := ⟨rfl, fun _ _ h => h⟩

theorem Grows.trans (h : d.Grows d') (h' : d'.Grows d'') : d.Grows d'' :=
  ⟨h.current.trans h'.current, fun place entry hentry =>
    h'.at?_eq place entry (h.at?_eq place entry hentry)⟩

theorem grows_of_makeDirectory (h : d.makeDirectory path = .ok d') : d.Grows d' := by
  unfold makeDirectory at h
  cases hlocate : d.locate path with
  | error error => simp [hlocate, bind, Except.bind] at h
  | ok place =>
    simp only [hlocate, bind, Except.bind] at h
    split at h
    · cases h
    case h_2 hnone =>
      split at h
      · cases h
        refine ⟨rfl, fun q entry hentry => ?_⟩
        have hplace : place ≠ [] := by
          rintro rfl
          simp [at?] at hnone
        rw [at?_put _ _ _ _ hplace, if_neg]
        · exact hentry
        · rintro rfl
          rw [hnone] at hentry
          cases hentry
      · cases h

theorem makeOne_apply (path : Path) (d : Disk) :
    makeDirectories.makeOne path d = match d.makeDirectory path with
      | .ok d' => (.ok (), d')
      | .error error => if d.isDirectory path then (.ok (), d) else (.error error, d) := by
  have hget : ∀ d : Disk, (get : DiskAction IoError Disk) d = (.ok d, d) := fun _ => rfl
  unfold makeDirectories.makeOne
  rw [DiskAction.bind_apply, hget]
  dsimp only
  cases d.makeDirectory path with
  | ok d' => rfl
  | error error =>
    dsimp only
    rw [DiskAction.bind_apply, hget]
    dsimp only
    split_ifs <;> rfl

theorem grows_makeOne (path : Path) (d : Disk) : d.Grows (makeDirectories.makeOne path d).2 := by
  rw [makeOne_apply]
  cases hmake : d.makeDirectory path with
  | ok d' => exact grows_of_makeDirectory hmake
  | error error =>
    dsimp only
    split_ifs <;> exact .refl d

theorem makeDirectories_cons (path : Path) (above : List Path) (d : Disk) :
    makeDirectories (path :: above) d =
      if path.text = "" then (.ok (), d)
      else match d.makeDirectory path with
        | .error .notFound => (makeDirectories above >>= fun _ => makeDirectories.makeOne path) d
        | _ => makeDirectories.makeOne path d := by
  have hget : ∀ d : Disk, (get : DiskAction IoError Disk) d = (.ok d, d) := fun _ => rfl
  rw [makeDirectories]
  split_ifs with hempty
  · rfl
  · rw [DiskAction.bind_apply, hget]
    dsimp only
    rw [makeOne_apply]
    cases hmake : d.makeDirectory path with
    | ok d' => rfl
    | error error =>
      cases error
      case notFound => rfl
      all_goals
        dsimp only
        rw [DiskAction.bind_apply, hget]
        dsimp only
        split_ifs <;> rfl

theorem grows_makeDirectories (parents : List Path) (d : Disk) :
    d.Grows (makeDirectories parents d).2 := by
  induction parents generalizing d with
  | nil => exact .refl d
  | cons path above ih =>
    rw [makeDirectories_cons]
    split_ifs with hempty
    · exact .refl d
    · split
      · rw [DiskAction.bind_apply]
        have habove := ih d
        rcases hmake : makeDirectories above d with ⟨r, d'⟩
        rw [hmake] at habove
        cases r with
        | error error => exact habove
        | ok u => exact habove.trans (grows_makeOne path d')
      · exact grows_makeOne path d

theorem grows_prepareOutput (path : Path) (allow : Bool) (d : Disk) :
    d.Grows (prepareOutput path allow d).2 := by
  have hget : ∀ d : Disk, (get : DiskAction OutputFault Disk) d = (.ok d, d) := fun _ => rfl
  rw [prepareOutput, DiskAction.bind_apply, hget]
  dsimp only
  split_ifs
  all_goals first
    | exact .refl d
    | exact grows_makeDirectories _ d

/-- A directory that is found is still found. -/
theorem Grows.find_directory (h : d.Grows d') (hfind : d.find path = .ok (place, .directory)) :
    d'.find path = .ok (place, .directory) := by
  obtain ⟨hresolve, hentry⟩ := find_eq_ok.mp hfind
  obtain ⟨htext, hwalk⟩ := locate_eq_ok.mp (locate_of_resolve hresolve)
  have hentry' := h.at?_eq place _ hentry
  have hlocate : d'.locate path = .ok place := by
    refine locate_eq_ok.mpr ⟨htext, ?_⟩
    rw [start, ← h.current]
    exact walk_eq_ok_of_directories (fun q => h.at?_eq q .directory) hwalk
  exact find_of_directory hlocate hentry'

end RackTraffic.Disk
