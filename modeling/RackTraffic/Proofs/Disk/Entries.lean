import RackTraffic.Proofs.Disk.Atomic

/-!
# The entries of a directory

An entry of a directory is looked up under the path of the directory with the name of the entry
joined to it. This finds the entry, unless the path is one that is not followed at all, for instance
because it is too long (`find_join`). So what is read there depends on the text of the path and on
the entry, and on nothing else of the disk (`read_join`, `readText_join_congr`). In particular no
file that a directory holds is missing when it is read (`readText_join_ne_notFound`).
-/

namespace RackTraffic.Disk

variable {d : Disk} {directory : Path} {name text : String} {place : Place}

/-- Below a directory there is what the name says, if its path can be followed. -/
theorem find_join (hfind : d.find directory = .ok (place, .directory)) (hname : IsEntryName name) :
    d.find (directory.join name) = match (directory.join name).textFault? with
      | some fault => .error fault
      | none => match d.at? (name :: place) with
        | none => .error .notFound
        | some entry => .ok (name :: place, entry) := by
  obtain ⟨hresolve, hentry⟩ := find_eq_ok.mp hfind
  obtain ⟨-, hwalk⟩ := locate_eq_ok.mp (locate_of_resolve hresolve)
  cases htext : (directory.join name).textFault? with
  | some fault =>
    have hlocate : d.locate (directory.join name) = .error fault := by rw [locate_eq, htext]
    simp [find, resolve, hlocate, bind, Except.bind]
  | none =>
    have hlocate : d.locate (directory.join name) = .ok (name :: place) :=
      (locate_join hname).mpr ⟨htext, place, hwalk, hentry, rfl⟩
    dsimp only
    cases hat : d.at? (name :: place) with
    | none => exact Vacant.find_eq ⟨_, hlocate, hat⟩
    | some entry => exact find_of_locate (Path.endsInSlash_join hname) hlocate hat

/-- What is read below a directory. -/
theorem read_join (hfind : d.find directory = .ok (place, .directory)) (hname : IsEntryName name) :
    d.read (directory.join name) = match (directory.join name).textFault? with
      | some fault => .error fault
      | none => match d.at? (name :: place) with
        | none => .error .notFound
        | some .directory => .error .isADirectory
        | some (.file contents _) => .ok contents := by
  rw [read, find_join hfind hname]
  cases (directory.join name).textFault? with
  | some fault => rfl
  | none =>
    cases d.at? (name :: place) with
    | none => rfl
    | some entry => cases entry <;> rfl

/-- Of the files that have been put into a directory under different names, each is read. -/
theorem readText_putFiles {files : List (String × String)}
    (hfind : (d.putFiles place files).find directory = .ok (place, .directory))
    (hnames : (files.map Prod.fst).Nodup) (hfile : (name, text) ∈ files) (hname : IsEntryName name)
    (hpath : (directory.join name).textFault? = none) :
    (d.putFiles place files).readText (directory.join name) = .ok text := by
  refine readText_of_read ?_
  rw [read_join hfind hname, hpath, at?_putFiles_of_mem hnames hfile]

/-- A file that a directory holds is not missing. -/
theorem readText_join_ne_notFound (hfind : d.find directory = .ok (place, .directory))
    (hname : IsEntryName name) (hfile : d.FileAt (name :: place)) :
    d.readText (directory.join name) ≠ .error .notFound := by
  obtain ⟨entry, hat, hfile⟩ := hfile
  obtain ⟨contents, executable, rfl⟩ : ∃ contents x, entry = .file contents x := by
    cases entry with
    | directory => cases hfile
    | file contents x => exact ⟨contents, x, rfl⟩
  rw [readText, read_join hfind hname, hat]
  cases htext : (directory.join name).textFault? with
  | some fault =>
    rintro h
    cases h
    exact Path.textFault?_join_ne_notFound hname htext
  | none =>
    dsimp only [bind, Except.bind]
    cases String.fromUTF8? contents <;> rintro ⟨⟩

/-- A file with the same contents in a directory under the same path is read in the same way. -/
theorem readText_join_congr {e : Disk} {entries entries' : List (String × Entry)}
    {contents : ByteArray} {x y : Bool} (hname : IsEntryName name)
    (hlist : d.list directory = .ok entries) (hlist' : e.list directory = .ok entries')
    (hmem : (name, .file contents x) ∈ entries) (hmem' : (name, .file contents y) ∈ entries') :
    d.readText (directory.join name) = e.readText (directory.join name) := by
  obtain ⟨place, hfind, rfl⟩ := list_eq_ok.mp hlist
  obtain ⟨place', hfind', rfl⟩ := list_eq_ok.mp hlist'
  rw [readText, readText, read_join hfind hname, read_join hfind' hname, mem_children.mp hmem,
    mem_children.mp hmem']

end RackTraffic.Disk
