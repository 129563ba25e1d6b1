import RackTraffic.Proofs.Disk.AllOrNothing
import RackTraffic.Proofs.Disk.Canonical

/-!
# What atomic writes leave

An atomic write into a directory that succeeds has put the file there and done nothing else
(`writeAtomic_eq_ok`).

A disk on which several files have been written like this, one after the other, is the disk before
with these files put into the directory (`Wrote`). If their names are different, each of them is
read back (`Wrote.readText`).
-/

namespace RackTraffic.Disk

variable {d e : Disk} {directory path : Path} {name text : String} {place : Place}

/-- The place that a path leads to, if it leads anywhere. -/
def destination (d : Disk) (path : Path) : Place := Path.destination (d.start path) path.steps

/-! ## One file -/

/-- **An atomic write that succeeds has written the file and done nothing else.** -/
theorem writeAtomic_eq_ok (hname : IsEntryName name)
    (h : writeAtomic (directory.join name) text d = (.ok (), e)) :
    d.at? (d.destination directory) = some .directory ∧
      d.locate (directory.join name) = .ok (name :: d.destination directory) ∧
        d.at? (name :: d.destination directory) ≠ some .directory ∧
          e = d.put (name :: d.destination directory) (.file text.toUTF8 false) := by
  rw [writeAtomic_eq] at h
  obtain ⟨⟨place, -, hfind, -⟩, q, hq, rfl⟩ := (writeThrough_eq_ok_iff picksFresh_freshName?).mp h
  -- The temporary file was in the directory of the file, which is where the path leads.
  obtain ⟨hresolve, hdirectory⟩ := find_eq_ok.mp hfind
  obtain rfl : place = d.destination directory := by
    rw [locate_eq_destination (locate_of_resolve hresolve), Path.destination_directory_join hname,
      start, Path.isAbsolute_directory_join hname]
    rfl
  obtain rfl : q = name :: d.destination directory := locate_join_eq hname hq.locate_eq
  exact ⟨hdirectory, hq.locate_eq, hq.ne_directory, rfl⟩

/-! ## Several files -/

/-- Put files with given names and texts into the directory at a place. -/
def putFiles (place : Place) : Disk → List (String × String) → Disk
  | d, [] => d
  | d, (name, text) :: files =>
    putFiles place (d.put (name :: place) (.file text.toUTF8 false)) files

theorem putFiles_append (d : Disk) (files files' : List (String × String)) :
    d.putFiles place (files ++ files') = (d.putFiles place files).putFiles place files' := by
  induction files generalizing d with
  | nil => rfl
  | cons file files ih => exact ih _

/-- What is not put stays. -/
theorem at?_putFiles_of_ne {files : List (String × String)} {q : Place}
    (h : ∀ file ∈ files, q ≠ file.1 :: place) : (d.putFiles place files).at? q = d.at? q := by
  induction files generalizing d with
  | nil => rfl
  | cons file files ih =>
    obtain ⟨hfile, hfiles⟩ := List.forall_mem_cons.mp h
    rw [putFiles, ih hfiles, at?_put _ _ _ _ (List.cons_ne_nil _ _), if_neg hfile.symm]

/-- Each of several files with different names is there. -/
theorem at?_putFiles_of_mem {files : List (String × String)}
    (hnames : (files.map Prod.fst).Nodup) (h : (name, text) ∈ files) :
    (d.putFiles place files).at? (name :: place) = some (.file text.toUTF8 false) := by
  induction files generalizing d with
  | nil => cases h
  | cons file files ih =>
    obtain ⟨hnot, hnames⟩ := List.nodup_cons.mp hnames
    rcases List.mem_cons.mp h with rfl | h
    · have hlater : ∀ file ∈ files, name :: place ≠ file.1 :: place := by
        rintro ⟨other, text'⟩ hother heq
        obtain ⟨rfl, -⟩ := List.cons.inj heq
        exact hnot (List.mem_map.mpr ⟨_, hother, rfl⟩)
      rw [putFiles, at?_putFiles_of_ne hlater, at?_put _ _ _ _ (List.cons_ne_nil _ _), if_pos rfl]
    · exact ih hnames h

/-- Files have been written into a directory, and nothing else has been done. -/
structure Wrote (directory : Path) (d : Disk) (files : List (String × String)) (e : Disk) :
    Prop where
  directories : d.SameDirectories e
  located : ∀ file ∈ files,
    d.locate (directory.join file.1) = .ok (file.1 :: d.destination directory)
  eq : e = d.putFiles (d.destination directory) files

theorem Wrote.nil : Wrote directory d [] d := ⟨.refl d, nofun, rfl⟩

theorem wrote_of_writeAtomic (hname : IsEntryName name)
    (h : writeAtomic (directory.join name) text d = (.ok (), e)) :
    Wrote directory d [(name, text)] e := by
  obtain ⟨-, hlocate, hfile, rfl⟩ := writeAtomic_eq_ok hname h
  exact ⟨sameDirectories_put hfile (by simp), by simpa using hlocate, rfl⟩

theorem SameDirectories.destination_eq (h : d.SameDirectories e) (path : Path) :
    e.destination path = d.destination path := by
  rw [destination, destination, h.start_eq]

theorem Wrote.append {f : Disk} {files files' : List (String × String)}
    (h : Wrote directory d files e) (h' : Wrote directory e files' f) :
    Wrote directory d (files ++ files') f := by
  have hplace := h.directories.destination_eq directory
  refine ⟨h.directories.trans h'.directories, fun file hfile => ?_, ?_⟩
  · rcases List.mem_append.mp hfile with hfile | hfile
    · exact h.located file hfile
    · rw [← hplace]
      exact h.directories.symm.locate_ok (h'.located file hfile)
  · rw [h'.eq, h.eq, putFiles_append, ← h.eq, hplace]

/-- What is in a file is read from it. -/
theorem read_of_locate {executable : Bool} {contents : ByteArray}
    (hslash : path.endsInSlash = false) (hlocate : d.locate path = .ok place)
    (hentry : d.at? place = some (.file contents executable)) : d.read path = .ok contents :=
  read_eq_ok.mpr ⟨place, executable, find_of_locate hslash hlocate hentry⟩

/-- A text is read where its bytes are read. -/
theorem readText_of_read (h : d.read path = .ok text.toUTF8) : d.readText path = .ok text := by
  have htext : String.fromUTF8? text.toUTF8 = some text := by
    simp [String.fromUTF8?, text.isValidUTF8, String.fromUTF8]
  simp only [readText, h, htext, bind, Except.bind, pure, Except.pure]

/-- Of each of several files that have been written under different names, the bytes are read. -/
theorem Wrote.read {files : List (String × String)} (h : Wrote directory d files e)
    (hnames : (files.map Prod.fst).Nodup) (hname : IsEntryName name)
    (hfile : (name, text) ∈ files) : e.read (directory.join name) = .ok text.toUTF8 := by
  have hentry : e.at? (name :: d.destination directory) = some (.file text.toUTF8 false) := by
    rw [h.eq]
    exact at?_putFiles_of_mem hnames hfile
  exact read_of_locate (Path.endsInSlash_join hname)
    (h.directories.locate_ok (h.located _ hfile)) hentry

/-- Files that have been written under different names are read back. -/
theorem Wrote.readText {files : List (String × String)} (h : Wrote directory d files e)
    (hnames : (files.map Prod.fst).Nodup) (hname : IsEntryName name)
    (hfile : (name, text) ∈ files) : e.readText (directory.join name) = .ok text :=
  readText_of_read (h.read hnames hname hfile)

end RackTraffic.Disk
