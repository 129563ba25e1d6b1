import RackTraffic.Disk.Output
import RackTraffic.Proofs.Disk.Agreement
import RackTraffic.Proofs.Text.Integer

/-!
# Atomic writes are all or nothing

**Theorem (`writeAtomic_allOrNothing`).** An atomic write that succeeds leaves the file with exactly
its contents and everything else as it was; one that fails leaves the disk as it was. In neither
case is there a temporary file left. It succeeds just if the directory has room for a temporary file
and the path leads to where a file may be (`AllOrNothing`).

How a name is picked for the temporary file does not matter, as long as nothing has it
(`PicksFresh`). So nothing is in the place of the temporary file before (`IsFree`), and whatever is
done to it, taking it away again gives back the disk that was there (`IsFree.removeFile_eq`).
-/

namespace RackTraffic.Disk

variable {d e : Disk} {directory path temporary : Path} {place q : Place} {name : String}
  {contents : ByteArray} {pick : List String → Option String} {fault : IoError}

/-! ## Putting and taking -/

/-- What is put last stays. -/
theorem put_put (d : Disk) (place : Place) (entry entry' : Entry) :
    (d.put place entry).put place entry' = d.put place entry' := by
  refine ext_entries rfl fun q => ?_
  simp only [put, Std.ExtTreeMap.getElem?_insert]
  split_ifs <;> rfl

/-- What is put where nothing was can be taken away again. -/
theorem take_put (h : d.at? place = none) (entry : Entry) : (d.put place entry).take place = d := by
  have hnone : d.entries[place]? = none := by
    cases place with
    | nil => cases h
    | cons name place => exact h
  refine ext_entries rfl fun q => ?_
  simp only [put, take, Std.ExtTreeMap.getElem?_insert, Std.ExtTreeMap.getElem?_erase]
  split_ifs with hplace
  · rw [← Std.LawfulEqCmp.eq_of_compare hplace, hnone]
  · rfl

/-! ## Names of temporary files -/

theorem toList_temporaryName (n : Nat) :
    (temporaryName n).toList = ".tmp".toList ++ Integer.ofNat n := by
  rw [temporaryName, String.toList_append, Nat.toString_eq_repr, Nat.toList_repr]
  rfl

theorem isEntryName_temporaryName {n : Nat} (h : n < maxTemporaries) :
    IsEntryName (temporaryName n) := by
  have hmem : ∀ c ∈ (temporaryName n).toList, c ∈ ".tmp".toList ∨ c.isDigit := by
    intro c hc
    rw [toList_temporaryName, List.mem_append] at hc
    exact hc.imp_right Integer.isDigit_of_mem_ofNat
  have hprefix : ".tmp".toList.length = 4 := by decide
  have hlong : ∀ other : String, other.toList.length ≤ 3 → temporaryName n ≠ other := by
    rintro other hlength rfl
    rw [toList_temporaryName, List.length_append, hprefix] at hlength
    omega
  refine ⟨fun hslash => ?_, fun hnull => ?_, hlong _ (by decide), hlong _ (by decide),
    hlong _ (by decide), ?_⟩
  · exact absurd (hmem _ hslash) (by decide)
  · exact absurd (hmem _ hnull) (by decide)
  · have hdigits : (Integer.ofNat n).length ≤ 11 :=
      (Nat.length_toDigits_le_iff (by decide) (by decide)).mpr (Nat.lt_trans h (by decide))
    have hsize := utf8ByteSize_ofList_le (temporaryName n).toList
    rw [String.ofList_toList, toList_temporaryName, List.length_append] at hsize
    have hmax : maxNameBytes = 255 := rfl
    omega

/-- The name of a temporary file is one that nothing has. -/
theorem freshName?_eq_some {names : List String} (h : freshName? names = some name) :
    name ∉ names ∧ IsEntryName name := by
  obtain ⟨n, hfind, rfl⟩ := Option.map_eq_some_iff.mp h
  have hfree := List.find?_some hfind
  have hrange := List.mem_range.mp (List.mem_of_find?_eq_some hfind)
  exact ⟨by simpa using hfree,
    isEntryName_temporaryName (Nat.lt_of_lt_of_le hrange (Nat.min_le_right _ _))⟩

/-! ## Temporary files -/

/-- There is nothing at the place that a path leads to, and a file can be made there. -/
structure IsFree (d : Disk) (temporary : Path) (place : Place) : Prop where
  locate_eq : d.locate temporary = .ok place
  at?_eq : d.at? place = none
  directory : d.at? place.tail = some .directory
  endsInSlash_eq : temporary.endsInSlash = false

namespace IsFree

variable (h : d.IsFree temporary place)
include h

theorem ne_directory : d.at? place ≠ some .directory := by simp [h.at?_eq]

theorem sameDirectories (contents : ByteArray) :
    d.SameDirectories (d.put place (.file contents false)) :=
  sameDirectories_put h.ne_directory (by simp)

/-- A temporary file can be made. -/
theorem write_eq (contents : ByteArray) :
    d.write temporary contents = .ok (d.put place (.file contents false)) := by
  simp [write, resolve_of_locate h.endsInSlash_eq h.locate_eq, h.at?_eq, h.directory,
    h.endsInSlash_eq, bind, Except.bind, pure, Except.pure]

/-- The temporary file is found when it has been made. -/
theorem find_put (contents : ByteArray) :
    (d.put place (.file contents false)).find temporary = .ok (place, .file contents false) := by
  have hlocate := (h.sameDirectories contents).locate_ok h.locate_eq
  refine find_of_locate h.endsInSlash_eq hlocate ?_
  rw [at?_put _ _ _ _ (ne_nil_of_ne_directory h.ne_directory), if_pos rfl]

/-- Its contents can be changed. -/
theorem write_put_eq (old contents : ByteArray) :
    (d.put place (.file old false)).write temporary contents =
      .ok (d.put place (.file contents false)) := by
  obtain ⟨hresolve, hentry⟩ := find_eq_ok.mp (h.find_put old)
  simp [write, hresolve, hentry, put_put, bind, Except.bind, pure, Except.pure]

/-- Taking it away gives back the disk from before it was made. -/
theorem removeFile_eq (contents : ByteArray) :
    (d.put place (.file contents false)).removeFile temporary = .ok d := by
  simp [removeFile, h.find_put contents, take_put h.at?_eq, bind, Except.bind, pure, Except.pure]

end IsFree

/-- A fresh name in a directory makes a free path, if the path can be followed. -/
theorem isFree_join (hfind : d.find directory = .ok (place, .directory)) (hname : IsEntryName name)
    (hfresh : name ∉ (d.children place).map Prod.fst)
    (htext : (directory.join name).textFault? = none) :
    d.IsFree (directory.join name) (name :: place) := by
  obtain ⟨hresolve, hentry⟩ := find_eq_ok.mp hfind
  have hwalk := (locate_eq_ok.mp (locate_of_resolve hresolve)).2
  refine ⟨(locate_join hname).mpr ⟨htext, place, hwalk, hentry, rfl⟩, ?_, hentry,
    Path.endsInSlash_join hname⟩
  cases hnone : d.at? (name :: place) with
  | none => rfl
  | some entry => exact absurd (List.mem_map_of_mem (mem_children.mpr hnone)) hfresh

/-! ## Renaming a file -/

/-- A path leads to where a file may be put. -/
structure Replaceable (d : Disk) (path : Path) (q : Place) : Prop where
  locate_eq : d.locate path = .ok q
  ne_directory : d.at? q ≠ some .directory
  endsInName_eq : path.endsInName = true
  endsInSlash_eq : path.endsInSlash = false

/-- A file that is renamed replaces what is no directory. -/
theorem rename_eq_ok {executable : Bool}
    (hname : path.endsInName = true) (hslash : path.endsInSlash = false)
    (hfind : d.find temporary = .ok (place, .file contents executable))
    (h : d.rename temporary path = .ok e) : ∃ q, d.locate path = .ok q ∧
      d.at? q ≠ some .directory ∧
        e = if place = q then d else (d.take place).put q (.file contents executable) := by
  have hsource : d.isDirectory temporary = false := by
    simp [isDirectory, hfind, Except.toOption, Entry.isFile]
  have htarget := isDirectory_target_of_rename hfind h
  rw [rename_eq hsource htarget hname hslash, hfind] at h
  cases hresolve : d.resolve path with
  | error error => simp [hresolve, Except.bind] at h
  | ok q =>
    simp only [hresolve, Except.bind, Except.ok.injEq] at h
    have hlocate := locate_of_resolve hresolve
    exact ⟨q, hlocate, ne_directory_of_locate htarget hlocate, h.symm⟩

/-- The new path of a file must end in a name and must not end in a slash. -/
theorem ends_of_rename {executable : Bool}
    (hfind : d.find temporary = .ok (place, .file contents executable))
    (h : d.rename temporary path = .ok e) : path.endsInName = true ∧ path.endsInSlash = false := by
  simp only [rename, hfind, Entry.isFile, bind, Except.bind] at h
  cases hresolve : d.resolve path with
  | error error => simp [hresolve] at h
  | ok q =>
    by_cases hname : path.endsInName = true
    · refine ⟨hname, Bool.eq_false_iff.mpr fun hslash => ?_⟩
      simp [hresolve, hname, hslash, throw, throwThe, MonadExceptOf.throw] at h
    · simp [hresolve, hname, throw, throwThe, MonadExceptOf.throw] at h

/-- A file takes the place of another file or of nothing. -/
theorem rename_eq_ok_iff {executable : Bool}
    (hfind : d.find temporary = .ok (place, .file contents executable)) :
    d.rename temporary path = .ok e ↔ ∃ q, d.Replaceable path q ∧
      e = if place = q then d else (d.take place).put q (.file contents executable) := by
  constructor
  · intro h
    obtain ⟨hname, hslash⟩ := ends_of_rename hfind h
    obtain ⟨q, hlocate, hfile, he⟩ := rename_eq_ok hname hslash hfind h
    exact ⟨q, ⟨hlocate, hfile, hname, hslash⟩, he⟩
  · rintro ⟨q, hq, rfl⟩
    obtain ⟨hresolve, hentry⟩ := find_eq_ok.mp hfind
    rw [rename_eq (isDirectory_eq_false_of_locate (locate_of_resolve hresolve) (by simp [hentry]))
        (isDirectory_eq_false_of_locate hq.locate_eq hq.ne_directory) hq.endsInName_eq
        hq.endsInSlash_eq, hfind, resolve_of_locate hq.endsInSlash_eq hq.locate_eq]
    rfl

theorem SameDirectories.replaceable (h : d.SameDirectories e) (hq : d.Replaceable path q) :
    e.Replaceable path q :=
  ⟨h.locate_ok hq.locate_eq, mt (h.directory q).mpr hq.ne_directory, hq.endsInName_eq,
    hq.endsInSlash_eq⟩

/-- A temporary file that is renamed could have been put where it is now at once. -/
theorem IsFree.rename_eq_ok_iff (h : d.IsFree temporary place) :
    (d.put place (.file contents false)).rename temporary path = .ok e ↔
      ∃ q, d.Replaceable path q ∧ e = d.put q (.file contents false) := by
  have hput : ∀ q, (if place = q then d.put place (.file contents false)
      else ((d.put place (.file contents false)).take place).put q (.file contents false)) =
        d.put q (.file contents false) := by
    intro q
    split_ifs with hplace
    · rw [hplace]
    · rw [take_put h.at?_eq]
  have hmade := h.sameDirectories contents
  simp only [Disk.rename_eq_ok_iff (h.find_put contents), hput]
  exact exists_congr fun q => and_congr_left fun _ => ⟨hmade.symm.replaceable, hmade.replaceable⟩

/-! ## Atomic writes -/

/-- An atomic write of some bytes, with a way to pick a name for the temporary file that is not
among given ones. -/
def writeThrough (pick : List String → Option String) (path : Path) (contents : ByteArray) :
    DiskAction IoError Unit := do
  let entries ← DiskAction.look (·.list path.directory)
  match pick (entries.map Prod.fst) with
  | none => throw .alreadyExists
  | some name =>
    let temporary := path.directory.join name
    DiskAction.change (·.write temporary .empty)
    DiskAction.change (·.write temporary contents)
    match (← get).rename temporary path with
    | .ok d => set d
    | .error e =>
      DiskAction.change (·.removeFile temporary)
      throw e

theorem writeAtomic_eq (path : Path) (text : String) :
    writeAtomic path text = writeThrough freshName? path text.toUTF8 := by
  rw [writeAtomic, makeTemporary, bind_assoc]
  congr
  funext entries
  cases freshName? (entries.map Prod.fst) with
  | none => rfl
  | some name => exact bind_assoc _ _ _

/-- The names that are picked are free, and files can have them. -/
def PicksFresh (pick : List String → Option String) : Prop :=
  ∀ names name, pick names = some name → name ∉ names ∧ IsEntryName name

theorem picksFresh_freshName? : PicksFresh freshName? := fun _ _ => freshName?_eq_some

/-- A temporary file can be made in a directory. -/
def HasRoom (d : Disk) (pick : List String → Option String) (directory : Path) : Prop :=
  ∃ place name, d.find directory = .ok (place, .directory) ∧
    pick ((d.children place).map Prod.fst) = some name ∧ (directory.join name).textFault? = none

theorem hasRoom_iff (hfind : d.find directory = .ok (place, .directory)) :
    d.HasRoom pick directory ↔ ∃ name, pick ((d.children place).map Prod.fst) = some name ∧
      (directory.join name).textFault? = none := by
  constructor
  · rintro ⟨place', name, hfind', hname⟩
    cases hfind.symm.trans hfind'
    exact ⟨name, hname⟩
  · rintro ⟨name, hname⟩
    exact ⟨place, name, hfind, hname⟩

theorem write_of_textFault (h : path.textFault? = some fault) (contents : ByteArray) :
    d.write path contents = .error fault := by
  simp [write, resolve, locate_eq, h, bind, Except.bind]

/-- With a temporary file made, what happens is up to the renaming. -/
theorem IsFree.writeThrough_eq (hfree : d.IsFree (path.directory.join name) place)
    (hlist : d.list path.directory = .ok (d.children place.tail))
    (hname : pick ((d.children place.tail).map Prod.fst) = some name) :
    writeThrough pick path contents d =
      match (d.put place (.file contents false)).rename (path.directory.join name) path with
      | .ok e => (.ok (), e)
      | .error fault => (.error fault, d) := by
  simp only [writeThrough, DiskAction.bind_apply, DiskAction.look, DiskAction.change, hlist, hname,
    hfree.write_eq, hfree.write_put_eq, DiskAction.get_apply]
  cases (d.put place (.file contents false)).rename (path.directory.join name) path with
  | ok e => rfl
  | error fault =>
    simp only [DiskAction.bind_apply, DiskAction.change, hfree.removeFile_eq]
    rfl

/-- Without room for a temporary file nothing is done. Otherwise there is one, and what happens is
up to the renaming. -/
theorem writeThrough_cases (hpick : PicksFresh pick) (path : Path) (contents : ByteArray)
    (d : Disk) :
    (¬d.HasRoom pick path.directory ∧
      ∃ fault, writeThrough pick path contents d = (.error fault, d))
    ∨ d.HasRoom pick path.directory ∧ ∃ temporary place, d.IsFree temporary place ∧
        writeThrough pick path contents d =
          match (d.put place (.file contents false)).rename temporary path with
          | .ok e => (.ok (), e)
          | .error fault => (.error fault, d) := by
  cases hlist : d.list path.directory with
  | error error =>
    refine .inl ⟨?_, error, ?_⟩
    · rintro ⟨place, name, hfind, -⟩
      rw [list_eq_ok.mpr ⟨place, hfind, rfl⟩] at hlist
      cases hlist
    · rw [writeThrough, DiskAction.bind_apply, DiskAction.look, hlist]
  | ok entries =>
    obtain ⟨place, hfind, rfl⟩ := list_eq_ok.mp hlist
    rw [hasRoom_iff hfind]
    cases hname : pick ((d.children place).map Prod.fst) with
    | none =>
      refine .inl ⟨by simp, .alreadyExists, ?_⟩
      simp only [writeThrough, DiskAction.bind_apply, DiskAction.look, hlist, hname]
      rfl
    | some name =>
      obtain ⟨hfresh, hentry⟩ := hpick _ _ hname
      cases htext : (path.directory.join name).textFault? with
      | some fault =>
        refine .inl ⟨by simp [htext], fault, ?_⟩
        simp only [writeThrough, DiskAction.bind_apply, DiskAction.look, hlist, hname,
          DiskAction.change, write_of_textFault htext]
      | none =>
        have hfree := isFree_join hfind hentry hfresh htext
        exact .inr ⟨⟨name, rfl, htext⟩, _, _, hfree, hfree.writeThrough_eq hlist hname⟩

/-- A write of a file is all or nothing. -/
structure AllOrNothing (pick : List String → Option String) (path : Path) (contents : ByteArray)
    (act : DiskAction IoError Unit) : Prop where
  /-- If it succeeds, the file is there with the contents, and everything else is as it was. -/
  all : ∀ d e, act d = (.ok (), e) → ∃ place, e.find path = .ok (place, .file contents false) ∧
    e.current = d.current ∧ ∀ q, q ≠ place → e.at? q = d.at? q
  /-- If it fails, everything is as it was. -/
  nothing : ∀ d e fault, act d = (.error fault, e) → e = d
  succeeds_iff : ∀ d, (∃ e, act d = (.ok (), e)) ↔
    d.HasRoom pick path.directory ∧ ∃ q, d.Replaceable path q
  /-- It fails if there is no directory to write into, or one in the place of the file. -/
  fails : ∀ d, d.isDirectory path.directory = false ∨ d.isDirectory path = true →
    ∃ fault, act d = (.error fault, d)

/-- What a write that succeeds has done. -/
theorem writeThrough_eq_ok_iff (hpick : PicksFresh pick) :
    writeThrough pick path contents d = (.ok (), e) ↔ d.HasRoom pick path.directory ∧
      ∃ q, d.Replaceable path q ∧ e = d.put q (.file contents false) := by
  rcases writeThrough_cases hpick path contents d with
    ⟨hroom, fault, h⟩ | ⟨hroom, temporary, place, hfree, h⟩
  · rw [h]
    exact ⟨nofun, fun hok => absurd hok.1 hroom⟩
  · rw [h, ← hfree.rename_eq_ok_iff, and_iff_right hroom]
    cases (d.put place (.file contents false)).rename temporary path with
    | error fault => exact ⟨nofun, nofun⟩
    | ok e' =>
      constructor
      · rintro ⟨⟩
        rfl
      · rintro ⟨⟩
        rfl

/-- A write that fails has done nothing. -/
theorem eq_of_writeThrough_eq_error (hpick : PicksFresh pick)
    (h : writeThrough pick path contents d = (.error fault, e)) : e = d := by
  rcases writeThrough_cases hpick path contents d with
    ⟨-, fault', h'⟩ | ⟨-, temporary, place, -, h'⟩
  · rw [h'] at h
    cases h
    rfl
  · rw [h'] at h
    split at h <;> cases h
    rfl

theorem writeThrough_allOrNothing (hpick : PicksFresh pick) (path : Path) (contents : ByteArray) :
    AllOrNothing pick path contents (writeThrough pick path contents) := by
  refine ⟨fun d e h => ?_, fun d e fault => eq_of_writeThrough_eq_error hpick, fun d => ?_,
    fun d h => ?_⟩
  · obtain ⟨-, q, hq, rfl⟩ := (writeThrough_eq_ok_iff hpick).mp h
    have hplace := ne_nil_of_ne_directory hq.ne_directory
    have hput : d.SameDirectories (d.put q (.file contents false)) :=
      sameDirectories_put hq.ne_directory (by simp)
    refine ⟨q, find_of_locate hq.endsInSlash_eq (hput.locate_ok hq.locate_eq) ?_, rfl,
      fun p hp => ?_⟩
    · rw [at?_put _ _ _ _ hplace, if_pos rfl]
    · rw [at?_put _ _ _ _ hplace, if_neg hp.symm]
  · simp only [writeThrough_eq_ok_iff hpick, exists_and_left]
    refine and_congr_right fun _ => ⟨?_, ?_⟩
    · rintro ⟨e, q, hq, -⟩
      exact ⟨q, hq⟩
    · rintro ⟨q, hq⟩
      exact ⟨_, q, hq, rfl⟩
  · rcases hwrite : writeThrough pick path contents d with ⟨fault | ⟨⟩, e⟩
    · exact ⟨fault, by rw [eq_of_writeThrough_eq_error hpick hwrite]⟩
    · obtain ⟨⟨place, name, hfind, -⟩, q, hq, -⟩ := (writeThrough_eq_ok_iff hpick).mp hwrite
      rcases h with h | h
      · rw [isDirectory_of_find hfind] at h
        cases h
      · rw [isDirectory_eq_false_of_locate hq.locate_eq hq.ne_directory] at h
        cases h

/-- **Atomic writes are all or nothing**, whatever the names of their temporary files. -/
theorem writeAtomic_allOrNothing (path : Path) :
    (∀ text, AllOrNothing freshName? path text.toUTF8 (writeAtomic path text)) ∧
      ∀ pick, PicksFresh pick → ∀ contents,
        AllOrNothing pick path contents (writeThrough pick path contents) := by
  refine ⟨fun text => ?_, fun pick hpick => writeThrough_allOrNothing hpick path⟩
  rw [writeAtomic_eq]
  exact writeThrough_allOrNothing picksFresh_freshName? path text.toUTF8

/-- A disk with an empty directory. -/
def emptyDirectory : Disk := (⟨∅, []⟩ : Disk).put ["d"] .directory

/-- A file can be written into the directory, but not in its place. -/
theorem writeAtomic_allOrNothing_emptyDirectory :
    (∃ e place, writeAtomic ⟨"d/f"⟩ "new" emptyDirectory = (.ok (), e) ∧
      e.find ⟨"d/f"⟩ = .ok (place, .file "new".toUTF8 false)) ∧
    ∃ fault, writeAtomic ⟨"d"⟩ "new" emptyDirectory = (.error fault, emptyDirectory) := by
  have hroom : emptyDirectory.HasRoom freshName? (Path.directory ⟨"d/f"⟩) :=
    ⟨["d"], ".tmp0", toOption_eq_some_iff.mp (by decide +kernel), by decide +kernel,
      by decide +kernel⟩
  have hfile : emptyDirectory.Replaceable ⟨"d/f"⟩ ["f", "d"] :=
    ⟨toOption_eq_some_iff.mp (by decide +kernel), by decide +kernel, by decide +kernel,
      by decide +kernel⟩
  have hwrite := (writeAtomic_allOrNothing ⟨"d/f"⟩).1 "new"
  obtain ⟨e, he⟩ := (hwrite.succeeds_iff emptyDirectory).mpr ⟨hroom, _, hfile⟩
  obtain ⟨place, hfind, -⟩ := hwrite.all _ _ he
  exact ⟨⟨e, place, he, hfind⟩, ((writeAtomic_allOrNothing ⟨"d"⟩).1 "new").fails emptyDirectory
    (.inr (by decide +kernel))⟩

end RackTraffic.Disk
