import RackTraffic.Proofs.Disk.Path
import RackTraffic.Simulation.Run

/-!
# Disks that agree

What a path leads to depends on little of a disk: on the directories that are passed, and on what is
at the end. Two disks *agree at* a path if it leads to the same place and the same entry on both
(`AgreeAt`); everything that is looked up or done through the path is then the same on both.

If two disks have the same directories and differ only in files right in one directory, a path into
this directory leads to the same place on both, or fails in the same way (`SameButIn.locate_join`).
The case that needs care is a path through something that is no directory: there the way in which it
fails depends on files, too. But then no path leads into the directory, and the disks are the same.
-/

namespace RackTraffic.Disk

variable {d e f : Disk} {directory path : Path} {name : String} {p q place : Place}

/-! ## Directories -/

/-- Two disks have the same directories, and the same one of them is current. -/
structure SameDirectories (d e : Disk) : Prop where
  current : d.current = e.current
  directory : ∀ place, d.at? place = some .directory ↔ e.at? place = some .directory

theorem SameDirectories.refl (d : Disk) : d.SameDirectories d := ⟨rfl, fun _ => .rfl⟩

theorem SameDirectories.symm (h : d.SameDirectories e) : e.SameDirectories d :=
  ⟨h.current.symm, fun place => (h.directory place).symm⟩

theorem SameDirectories.trans (h : d.SameDirectories e) (h' : e.SameDirectories f) :
    d.SameDirectories f :=
  ⟨h.current.trans h'.current, fun place => (h.directory place).trans (h'.directory place)⟩

theorem SameDirectories.start_eq (h : d.SameDirectories e) : d.start path = e.start path := by
  rw [start, start, h.current]

/-- Directories are the same after a change that concerns none. -/
theorem SameDirectories.of_ne (hcurrent : d.current = e.current)
    (h : ∀ place, d.at? place ≠ e.at? place →
      d.at? place ≠ some .directory ∧ e.at? place ≠ some .directory) : d.SameDirectories e := by
  refine ⟨hcurrent, fun place => ?_⟩
  by_cases heq : d.at? place = e.at? place
  · rw [heq]
  · obtain ⟨hd, he⟩ := h place heq
    exact ⟨fun h => absurd h hd, fun h => absurd h he⟩

theorem ne_nil_of_ne_directory (h : d.at? place ≠ some .directory) : place ≠ [] := by
  rintro rfl
  exact h rfl

theorem ext_entries (hcurrent : d.current = e.current)
    (h : ∀ place : Place, d.entries[place]? = e.entries[place]?) : d = e := by
  obtain ⟨entries, current⟩ := d
  obtain ⟨entries', current'⟩ := e
  obtain rfl : current = current' := hcurrent
  obtain rfl : entries = entries' := Std.ExtTreeMap.ext_getElem? h
  rfl

/-- Taking away nothing changes nothing. -/
theorem take_eq_self (hne : place ≠ []) (h : d.at? place = none) : d.take place = d := by
  obtain ⟨name, above, rfl⟩ := List.exists_cons_of_ne_nil hne
  refine ext_entries rfl fun q => ?_
  simp only [take, Std.ExtTreeMap.getElem?_erase]
  split_ifs with hplace
  · rw [← Std.LawfulEqCmp.eq_of_compare hplace]
    exact h.symm
  · rfl

theorem sameDirectories_take (h : d.at? place ≠ some .directory) :
    d.SameDirectories (d.take place) := by
  refine .of_ne rfl fun q hq => ?_
  rw [at?_take _ _ _ (ne_nil_of_ne_directory h)] at hq ⊢
  split_ifs at hq ⊢ with hplace
  · exact ⟨hplace ▸ h, nofun⟩
  · exact absurd rfl hq

theorem sameDirectories_put {entry : Entry} (h : d.at? place ≠ some .directory)
    (hentry : entry ≠ .directory) : d.SameDirectories (d.put place entry) := by
  refine .of_ne rfl fun q hq => ?_
  rw [at?_put _ _ _ _ (ne_nil_of_ne_directory h)] at hq ⊢
  split_ifs at hq ⊢ with hplace
  · exact ⟨hplace ▸ h, fun h => hentry (Option.some.inj h)⟩
  · exact absurd rfl hq

/-- A way through directories alone is a way on every disk that has these directories. -/
theorem walk_eq_ok_of_directories
    (h : ∀ place, d.at? place = some .directory → e.at? place = some .directory)
    {steps : List Path.Step} (hwalk : d.walk p steps = .ok q) : e.walk p steps = .ok q := by
  induction steps generalizing p with
  | nil => exact hwalk
  | cons step steps ih =>
    simp only [walk] at hwalk ⊢
    split at hwalk
    · cases hwalk
    · cases hwalk
    case h_3 hentry =>
      simp only [h p hentry]
      cases step with
      | stay => exact ih hwalk
      | up => exact ih hwalk
      | down name =>
        dsimp only at hwalk ⊢
        split_ifs at hwalk ⊢
        exact ih hwalk

theorem SameDirectories.walk_eq_ok (h : d.SameDirectories e) {steps : List Path.Step}
    (hwalk : d.walk p steps = .ok q) : e.walk p steps = .ok q :=
  walk_eq_ok_of_directories (fun place => (h.directory place).mp) hwalk

/-- A path that leads to a place leads there on every disk with the same directories. -/
theorem SameDirectories.locate_ok (h : d.SameDirectories e) (hlocate : d.locate path = .ok place) :
    e.locate path = .ok place := by
  obtain ⟨htext, hwalk⟩ := locate_eq_ok.mp hlocate
  refine locate_eq_ok.mpr ⟨htext, ?_⟩
  rw [← h.start_eq]
  exact h.walk_eq_ok hwalk

/-- On disks with the same entries every way is the same. -/
theorem walk_congr (h : ∀ place, d.at? place = e.at? place) (p : Place)
    (steps : List Path.Step) : d.walk p steps = e.walk p steps := by
  induction steps generalizing p with
  | nil => rfl
  | cons step steps ih => simp only [walk, h, ih]

/-! ## Agreement at a path -/

/-- A path leads to the same place and the same entry on both disks. -/
structure AgreeAt (d e : Disk) (path : Path) : Prop where
  locate_eq : d.locate path = e.locate path
  at?_eq : ∀ place, d.locate path = .ok place → d.at? place = e.at? place

theorem AgreeAt.refl (d : Disk) (path : Path) : d.AgreeAt d path := ⟨rfl, fun _ _ => rfl⟩

theorem AgreeAt.symm (h : d.AgreeAt e path) : e.AgreeAt d path :=
  ⟨h.locate_eq.symm, fun place hplace => (h.at?_eq place (h.locate_eq.trans hplace)).symm⟩

theorem AgreeAt.trans (h : d.AgreeAt e path) (h' : e.AgreeAt f path) : d.AgreeAt f path :=
  ⟨h.locate_eq.trans h'.locate_eq, fun place hplace =>
    (h.at?_eq place hplace).trans (h'.at?_eq place (h.locate_eq.symm.trans hplace))⟩

theorem locate_of_resolve (h : d.resolve path = .ok place) : d.locate path = .ok place := by
  unfold resolve at h
  cases hlocate : d.locate path with
  | error error => simp [hlocate, bind, Except.bind] at h
  | ok p =>
    simp only [hlocate, bind, Except.bind] at h
    split at h
    · split_ifs at h
      cases h
      rfl
    · exact h

theorem resolve_of_directory (hlocate : d.locate path = .ok place)
    (hentry : d.at? place = some .directory) : d.resolve path = .ok place := by
  simp [resolve, hlocate, bind, Except.bind, hentry, pure, Except.pure]

theorem resolve_of_locate (hslash : path.endsInSlash = false)
    (hlocate : d.locate path = .ok place) : d.resolve path = .ok place := by
  simp only [resolve, hlocate, bind, Except.bind, hslash, pure, Except.pure]
  split <;> rfl

theorem find_of_directory (hlocate : d.locate path = .ok place)
    (hentry : d.at? place = some .directory) : d.find path = .ok (place, .directory) :=
  find_eq_ok.mpr ⟨resolve_of_directory hlocate hentry, hentry⟩

theorem find_of_locate {entry : Entry} (hslash : path.endsInSlash = false)
    (hlocate : d.locate path = .ok place) (hentry : d.at? place = some entry) :
    d.find path = .ok (place, entry) :=
  find_eq_ok.mpr ⟨resolve_of_locate hslash hlocate, hentry⟩

theorem contains_of_at?_eq_none (h : ∀ place, d.locate path = .ok place → d.at? place = none) :
    d.contains path = false := by
  unfold contains
  cases hfind : d.find path with
  | error error => rfl
  | ok found =>
    obtain ⟨place, entry⟩ := found
    obtain ⟨hresolve, hentry⟩ := find_eq_ok.mp hfind
    rw [h place (locate_of_resolve hresolve)] at hentry
    cases hentry

/-- There is nothing in the place that a path leads to. -/
def Vacant (d : Disk) (path : Path) : Prop :=
  ∃ place, d.locate path = .ok place ∧ d.at? place = none

theorem Vacant.contains_eq_false (h : d.Vacant path) : d.contains path = false := by
  obtain ⟨place, hlocate, hnone⟩ := h
  refine contains_of_at?_eq_none fun q hq => ?_
  rw [hlocate] at hq
  cases hq
  exact hnone

theorem Vacant.find_eq (h : d.Vacant path) : d.find path = .error .notFound := by
  obtain ⟨place, hlocate, hnone⟩ := h
  simp [find, resolve, hlocate, hnone, bind, Except.bind, pure, Except.pure, throw, throwThe,
    MonadExceptOf.throw]

theorem at?_eq_none_of_contains (hslash : path.endsInSlash = false)
    (h : d.contains path = false) (hlocate : d.locate path = .ok place) : d.at? place = none := by
  cases hentry : d.at? place with
  | none => rfl
  | some entry =>
    simp [contains, find_of_locate hslash hlocate hentry, Except.toOption] at h

theorem contains_of_find_error {error : IoError} (h : d.find path = .error error) :
    d.contains path = false := by
  rw [contains, h]
  rfl

theorem isDirectory_iff :
    d.isDirectory path = true ↔ ∃ place, d.locate path = .ok place ∧
      d.at? place = some .directory := by
  constructor
  · intro h
    unfold isDirectory at h
    cases hfind : d.find path with
    | error error => simp [hfind, Except.toOption] at h
    | ok found =>
      obtain ⟨place, entry⟩ := found
      obtain ⟨hresolve, hentry⟩ := find_eq_ok.mp hfind
      cases entry with
      | directory => exact ⟨place, locate_of_resolve hresolve, hentry⟩
      | file contents executable => simp [hfind, Except.toOption, Entry.isFile] at h
  · rintro ⟨place, hlocate, hentry⟩
    simp [isDirectory, find_of_directory hlocate hentry, Except.toOption, Entry.isFile]

theorem read_eq_ok {contents : ByteArray} :
    d.read path = .ok contents ↔
      ∃ place executable, d.find path = .ok (place, .file contents executable) := by
  unfold read
  cases hfind : d.find path with
  | error error => simp [bind, Except.bind]
  | ok found =>
    obtain ⟨place, entry⟩ := found
    cases entry with
    | directory => simp [bind, Except.bind, throw, throwThe, MonadExceptOf.throw]
    | file contents executable => simp [bind, Except.bind, pure, Except.pure]

theorem isFile_iff :
    d.isFile path = true ↔ ∃ place contents executable,
      d.find path = .ok (place, .file contents executable) := by
  unfold isFile
  cases hfind : d.find path with
  | error error => simp [Except.toOption]
  | ok found =>
    obtain ⟨place, entry⟩ := found
    cases entry <;> simp [Except.toOption, Entry.isFile]

theorem ne_directory_of_locate (h : d.isDirectory path = false)
    (hlocate : d.locate path = .ok place) : d.at? place ≠ some .directory := by
  intro hentry
  rw [isDirectory_iff.mpr ⟨place, hlocate, hentry⟩] at h
  cases h

theorem isDirectory_eq_false_of_locate (hlocate : d.locate path = .ok place)
    (hfile : d.at? place ≠ some .directory) : d.isDirectory path = false := by
  rw [Bool.eq_false_iff]
  intro hdirectory
  obtain ⟨q, hq, hentry⟩ := isDirectory_iff.mp hdirectory
  rw [hlocate] at hq
  cases hq
  exact hfile hentry

theorem AgreeAt.resolve_eq (h : d.AgreeAt e path) : d.resolve path = e.resolve path := by
  unfold resolve
  rw [← h.locate_eq]
  cases hlocate : d.locate path with
  | error error => rfl
  | ok place => simp only [bind, Except.bind, h.at?_eq place hlocate]

theorem AgreeAt.find_eq (h : d.AgreeAt e path) : d.find path = e.find path := by
  unfold find
  rw [← h.resolve_eq]
  cases hresolve : d.resolve path with
  | error error => rfl
  | ok place => simp only [bind, Except.bind, h.at?_eq place (locate_of_resolve hresolve)]

theorem AgreeAt.contains_eq (h : d.AgreeAt e path) : d.contains path = e.contains path := by
  rw [contains, contains, h.find_eq]

theorem AgreeAt.vacant (h : d.AgreeAt e path) (hvacant : d.Vacant path) : e.Vacant path := by
  obtain ⟨place, hlocate, hnone⟩ := hvacant
  exact ⟨place, h.locate_eq.symm.trans hlocate, (h.at?_eq place hlocate).symm.trans hnone⟩

theorem AgreeAt.read_eq (h : d.AgreeAt e path) : d.read path = e.read path := by
  rw [read, read, h.find_eq]

/-- A path into something that is a directory on both disks leads to the same place. -/
theorem SameDirectories.locate_join (h : d.SameDirectories e)
    (hfind : d.find directory = .ok (p, .directory)) (hname : IsEntryName name) :
    d.locate (directory.join name) = e.locate (directory.join name) := by
  obtain ⟨hresolve, hentry⟩ := find_eq_ok.mp hfind
  obtain ⟨-, hwalk⟩ := locate_eq_ok.mp (locate_of_resolve hresolve)
  have hjoin := (walk_join hname).mpr ⟨p, hwalk, hentry, rfl⟩
  rw [locate_eq, locate_eq, ← h.start_eq, hjoin, h.walk_eq_ok hjoin]

/-! ## Disks that differ in the files of a directory -/

/-- Two disks have the same directories and differ at most in files right in one directory. -/
structure SameButIn (directory : Path) (d e : Disk) : Prop where
  directories : d.SameDirectories e
  at?_eq : ∀ place, (∀ name, IsEntryName name → d.locate (directory.join name) ≠ .ok place) →
    d.at? place = e.at? place

/-- A path into the directory leads to the same place. -/
theorem SameButIn.locate_join (h : d.SameButIn directory e) (hname : IsEntryName name) :
    d.locate (directory.join name) = e.locate (directory.join name) := by
  rw [locate_eq, locate_eq]
  cases (directory.join name).textFault? with
  | some fault => rfl
  | none =>
    dsimp only
    cases hwalk : d.walk (d.start (directory.join name)) (directory.join name).steps with
    | ok place =>
      rw [← h.directories.start_eq, h.directories.walk_eq_ok hwalk]
    | error error =>
      have hall : ∀ place, d.at? place = e.at? place := by
        refine fun place => h.at?_eq place fun other hother hlocate => ?_
        obtain ⟨-, p, hp, hdirectory, -⟩ := (Disk.locate_join hother).mp hlocate
        rw [(walk_join hname).mpr ⟨p, hp, hdirectory, rfl⟩] at hwalk
        cases hwalk
      rw [← h.directories.start_eq, ← walk_congr hall, hwalk]

/-! ## Removing and renaming files -/

theorem isDirectory_of_find (h : d.find path = .ok (place, .directory)) :
    d.isDirectory path = true :=
  isDirectory_iff.mpr ⟨place, locate_of_resolve (find_eq_ok.mp h).1, (find_eq_ok.mp h).2⟩

/-- Removing what is no directory fails only if the path cannot be followed. -/
theorem removeIfPresent_eq (hdirectory : d.isDirectory path = false) :
    removeIfPresent path d = match d.find path with
      | .ok (place, _) => (.ok (), d.take place)
      | .error .notFound => (.ok (), d)
      | .error error => (.error error, d) := by
  unfold removeIfPresent removeFile
  cases hfind : d.find path with
  | error error => cases error <;> rfl
  | ok found =>
    obtain ⟨place, entry⟩ := found
    cases entry with
    | directory => rw [isDirectory_of_find hfind] at hdirectory; cases hdirectory
    | file contents executable => rfl

/-- Nothing is left where something other than a directory has been removed. -/
theorem contains_removeIfPresent (h : d.isDirectory path = false) :
    (removeIfPresent path d).2.contains path = false := by
  rw [removeIfPresent_eq h]
  cases hfind : d.find path with
  | error error =>
    have hcontains := contains_of_find_error hfind
    cases error <;> exact hcontains
  | ok found =>
    obtain ⟨place, entry⟩ := found
    have hlocate := locate_of_resolve (find_eq_ok.mp hfind).1
    have hentry := ne_directory_of_locate h hlocate
    refine contains_of_at?_eq_none fun q hq => ?_
    rw [(sameDirectories_take hentry).locate_ok hlocate] at hq
    cases hq
    simp [at?_take _ _ _ (ne_nil_of_ne_directory hentry)]

/-- What has been removed is gone, and nothing else is. -/
theorem removeIfPresent_eq_ok (h : removeIfPresent path d = (.ok (), e)) :
    e.contains path = false ∧ d.SameDirectories e ∧
      ∀ place, d.locate path ≠ .ok place → d.at? place = e.at? place := by
  have hdirectory : d.isDirectory path = false := by
    rw [Bool.eq_false_iff]
    intro hdirectory
    obtain ⟨place, hlocate, hentry⟩ := isDirectory_iff.mp hdirectory
    have hfind := find_of_directory hlocate hentry
    simp only [removeIfPresent, removeFile, hfind, bind, Except.bind, throw, throwThe,
      MonadExceptOf.throw] at h
    cases h
  have hcontains := contains_removeIfPresent hdirectory
  rw [h] at hcontains
  refine ⟨hcontains, ?_⟩
  rw [removeIfPresent_eq hdirectory] at h
  cases hfind : d.find path with
  | error error =>
    rw [hfind] at h
    cases error <;> cases h
    exact ⟨.refl d, fun _ _ => rfl⟩
  | ok found =>
    obtain ⟨place, entry⟩ := found
    rw [hfind] at h
    cases h
    have hlocate := locate_of_resolve (find_eq_ok.mp hfind).1
    have hentry := ne_directory_of_locate hdirectory hlocate
    refine ⟨sameDirectories_take hentry, fun q hq => ?_⟩
    rw [at?_take _ _ _ (ne_nil_of_ne_directory hentry), if_neg]
    rintro rfl
    exact hq hlocate

/-- What is no directory is removed from its place. -/
theorem removeIfPresent_of_locate (hslash : path.endsInSlash = false)
    (hlocate : d.locate path = .ok place) (hfile : d.at? place ≠ some .directory) :
    removeIfPresent path d = (.ok (), d.take place) := by
  rw [removeIfPresent_eq (isDirectory_eq_false_of_locate hlocate hfile)]
  cases hentry : d.at? place with
  | none =>
    have hvacant : d.Vacant path := ⟨place, hlocate, hentry⟩
    rw [hvacant.find_eq, take_eq_self (ne_nil_of_ne_directory hfile) hentry]
  | some entry => rw [find_of_locate hslash hlocate hentry]

/-- Renaming one file to another. -/
theorem rename_eq {source target : Path} (hsource : d.isDirectory source = false)
    (htarget : d.isDirectory target = false) (hname : target.endsInName = true)
    (hslash : target.endsInSlash = false) :
    d.rename source target = (d.find source).bind fun (sourcePlace, entry) =>
      (d.resolve target).bind fun targetPlace =>
        .ok (if sourcePlace = targetPlace then d
          else (d.take sourcePlace).put targetPlace entry) := by
  unfold rename
  cases hfind : d.find source with
  | error error => rfl
  | ok found =>
    obtain ⟨sourcePlace, entry⟩ := found
    cases entry with
    | directory => rw [isDirectory_of_find hfind] at hsource; cases hsource
    | file contents executable =>
      cases hresolve : d.resolve target with
      | error error => rfl
      | ok targetPlace =>
        have hentry : d.at? targetPlace ≠ some .directory := by
          intro hentry
          rw [isDirectory_of_find (find_eq_ok.mpr ⟨hresolve, hentry⟩)] at htarget
          cases htarget
        by_cases hplace : sourcePlace = targetPlace
        · simp [bind, Except.bind, pure, Except.pure, hname, hslash, hplace]
        · cases hat : d.at? targetPlace with
          | none => simp [bind, Except.bind, pure, Except.pure, hname, hslash, hplace, hat]
          | some found =>
            cases found with
            | directory => exact absurd hat hentry
            | file _ _ => simp [bind, Except.bind, pure, Except.pure, hname, hslash, hplace, hat]

/-- A file is moved to a place where no directory is. -/
theorem rename_of_locate {source target : Path} {contents : ByteArray} {executable : Bool}
    (hsource : source.endsInSlash = false) (htarget : target.endsInSlash = false)
    (hname : target.endsInName = true) (hplace : d.locate source = .ok place)
    (hentry : d.at? place = some (.file contents executable)) (hq : d.locate target = .ok q)
    (hfile : d.at? q ≠ some .directory) (hne : place ≠ q) :
    d.rename source target = .ok ((d.take place).put q (.file contents executable)) := by
  rw [rename_eq (isDirectory_eq_false_of_locate hplace (by simp [hentry]))
      (isDirectory_eq_false_of_locate hq hfile) hname htarget,
    find_of_locate hsource hplace hentry, resolve_of_locate htarget hq]
  simp only [Except.bind, if_neg hne]

theorem find_of_rename {source target : Path} (h : d.rename source target = .ok e) :
    ∃ place entry, d.find source = .ok (place, entry) := by
  cases hfind : d.find source with
  | error error => simp [rename, hfind, bind, Except.bind] at h
  | ok found => exact ⟨found.1, found.2, rfl⟩

/-- A file does not replace a directory. -/
theorem isDirectory_target_of_rename {source target : Path} {contents : ByteArray}
    {executable : Bool} (hfind : d.find source = .ok (p, .file contents executable))
    (h : d.rename source target = .ok e) : d.isDirectory target = false := by
  rw [Bool.eq_false_iff]
  intro hdirectory
  obtain ⟨q, hlocate, hentry⟩ := isDirectory_iff.mp hdirectory
  have hplace : p ≠ q := by
    rintro rfl
    rw [(find_eq_ok.mp hfind).2] at hentry
    cases hentry
  simp only [rename, hfind, resolve_of_directory hlocate hentry, hplace, hentry, bind, Except.bind,
    throw, throwThe, MonadExceptOf.throw, pure, Except.pure, if_false] at h
  split_ifs at h

/-- A file is found under its new name. -/
theorem read_of_rename {source target : Path} {contents : ByteArray} {executable : Bool}
    (hfind : d.find source = .ok (p, .file contents executable)) (hname : target.endsInName = true)
    (hslash : target.endsInSlash = false) (hne : d.locate target ≠ .ok p)
    (h : d.rename source target = .ok e) : e.read target = .ok contents := by
  have hsource : d.isDirectory source = false := by
    simp [isDirectory, hfind, Except.toOption, Entry.isFile]
  have htarget := isDirectory_target_of_rename hfind h
  rw [rename_eq hsource htarget hname hslash, hfind] at h
  cases hresolve : d.resolve target with
  | error error => simp [hresolve, Except.bind] at h
  | ok q =>
    have hlocate := locate_of_resolve hresolve
    have hplace : p ≠ q := by
      rintro rfl
      exact hne hlocate
    simp only [hresolve, Except.bind, hplace, if_false, Except.ok.injEq] at h
    have hp : d.at? p ≠ some .directory := by simp [(find_eq_ok.mp hfind).2]
    have hq : (d.take p).at? q ≠ some .directory := by
      rw [at?_take _ _ _ (ne_nil_of_ne_directory hp), if_neg hplace]
      exact ne_directory_of_locate htarget hlocate
    have hput : (d.take p).SameDirectories ((d.take p).put q (.file contents executable)) :=
      sameDirectories_put hq (by simp)
    have hdirectories := (sameDirectories_take hp).trans hput
    have hentry : e.at? q = some (.file contents executable) := by
      rw [← h, at?_put _ _ _ _ (ne_nil_of_ne_directory hq), if_pos rfl]
    rw [h] at hdirectories
    have hfind' := find_of_locate hslash (hdirectories.locate_ok hlocate) hentry
    simp [read, hfind', bind, Except.bind, pure, Except.pure]

/-! ## Writing -/

/-- Writing goes the same way on disks with the same directories that agree at the path: it fails
on both, or it puts the same file at the same place. -/
theorem AgreeAt.write (hdirectories : d.SameDirectories e) (h : d.AgreeAt e path)
    (contents : ByteArray) :
    (∃ error, d.write path contents = .error error ∧ e.write path contents = .error error) ∨
      ∃ place executable, d.locate path = .ok place ∧ d.at? place ≠ some .directory ∧
        d.write path contents = .ok (d.put place (.file contents executable)) ∧
          e.write path contents = .ok (e.put place (.file contents executable)) := by
  unfold Disk.write
  rw [← h.resolve_eq]
  cases hresolve : d.resolve path with
  | error error => exact .inl ⟨error, rfl, rfl⟩
  | ok place =>
    have hlocate := locate_of_resolve hresolve
    have hat := h.at?_eq place hlocate
    simp only [bind, Except.bind, ← hat]
    cases hentry : d.at? place with
    | some entry =>
      cases entry with
      | directory => exact .inl ⟨_, rfl, rfl⟩
      | file _ executable => exact .inr ⟨place, executable, hlocate, by simp [hentry], rfl, rfl⟩
    | none =>
      by_cases hslash : path.endsInSlash = true
      · exact .inl ⟨.isADirectory, by simp [hslash, throw, throwThe, MonadExceptOf.throw],
          by simp [hslash, throw, throwThe, MonadExceptOf.throw]⟩
      · by_cases hdirectory : d.at? place.tail = some .directory
        · refine .inr ⟨place, false, hlocate, by simp [hentry], ?_, ?_⟩
          · simp [hslash, hdirectory, pure, Except.pure]
          · simp [hslash, (hdirectories.directory _).mp hdirectory, pure, Except.pure]
        · have hdirectory' : e.at? place.tail ≠ some .directory :=
            fun h => hdirectory ((hdirectories.directory _).mpr h)
          refine .inl ⟨.notFound, ?_, ?_⟩
          · simp only [hslash]
            split <;> simp_all [throw, throwThe, MonadExceptOf.throw]
          · simp only [hslash]
            split <;> simp_all [throw, throwThe, MonadExceptOf.throw]

end RackTraffic.Disk
