import RackTraffic.Proofs.Disk.Atomic
import RackTraffic.Proofs.Disk.Output

/-!
# Which directories are made for output

Only directories are made, and only at places that the path of the output directory passes
(`growsBy_prepareOutput`). The places that it passes are those that beginnings of its steps lead to
(`Path.Passes`). They lie on the way to the directory, except if the path goes into a directory and
back up: then they may lie anywhere, even in the directory itself.

In the end the path leads to a directory (`isDirectory_of_prepareOutput`), and its entries are there
(`locate_join_of_prepareOutput`). The empty path is special: nothing is made for it, and its entries
are those of the current directory.
-/

namespace RackTraffic

/-! ## Passing places -/

namespace Path

/-- A path passes a place if a beginning of its steps leads there. -/
def Passes (p : Path) (start place : Place) : Prop :=
  ∃ passed, passed <+: p.steps ∧ destination start passed = place

/-- A path that is made of the first parts of another. -/
structure IsAbove (above p : Path) : Prop where
  isAbsolute : above.isAbsolute = p.isAbsolute
  steps : above.steps.filter (· ≠ .stay) <+: p.steps.filter (· ≠ .stay)

variable {above p q : Path} {start place : Place}

theorem IsAbove.refl (p : Path) : p.IsAbove p := ⟨rfl, List.prefix_refl _⟩

theorem IsAbove.trans (h : above.IsAbove p) (h' : p.IsAbove q) : above.IsAbove q :=
  ⟨h.isAbsolute.trans h'.isAbsolute, h.steps.trans h'.steps⟩

/-- The parent of a path is made of all its parts but the last. -/
theorem isAbove_of_parent? (h : p.parent? = some above) : above.IsAbove p := by
  unfold parent? at h
  have hparts : above = ofParts p.parts.dropLast ∧ p.parts ≠ [.root] := by
    split at h
    · cases h
    · cases h
    case h_3 hnone hroot =>
      refine ⟨(Option.some.inj h).symm, fun heq => hroot ?_⟩
      rw [heq]
      rfl
  obtain ⟨rfl, hroot⟩ := hparts
  have hproper : ∀ part ∈ p.parts.dropLast, part.IsProper := fun part hpart =>
    isProper_of_mem_parts (List.dropLast_subset _ hpart)
  constructor
  · rw [Bool.eq_iff_iff, isAbsolute_ofParts hproper, ← head?_parts]
    rcases hcases : p.parts with _ | ⟨first, _ | ⟨second, rest⟩⟩
    · simp
    · rw [hcases] at hroot
      simpa using fun h => hroot (by rw [h])
    · simp
  · rw [filter_steps_ofParts hproper, filter_steps]
    exact (List.dropLast_prefix p.parts).filterMap _

theorem isAbove_of_mem_ancestors {count : Nat} (h : above ∈ Disk.ancestors count p) :
    above.IsAbove p := by
  induction count generalizing p with
  | zero => exact List.mem_singleton.mp h ▸ .refl p
  | succ count ih =>
    unfold Disk.ancestors at h
    cases hparent : p.parent? with
    | none =>
      rw [hparent] at h
      exact List.mem_singleton.mp h ▸ .refl p
    | some parent =>
      rw [hparent] at h
      rcases List.mem_cons.mp h with rfl | h
      · exact .refl _
      · exact (ih h).trans (isAbove_of_parent? hparent)

/-- A path passes the places that its beginnings lead to. -/
theorem IsAbove.passes (h : above.IsAbove p) : p.Passes start (destination start above.steps) := by
  obtain ⟨passed, hpassed, hfilter⟩ := List.prefix_filter_iff.mp h.steps
  refine ⟨passed, hpassed, ?_⟩
  rw [← destination_filter start passed, ← hfilter, destination_filter]

/-- A path that never goes up passes only places above the one that it leads to. -/
theorem Passes.length_le (h : p.Passes start place) (hup : .up ∉ p.steps) :
    place.length ≤ (destination start p.steps).length := by
  obtain ⟨passed, ⟨rest, hrest⟩, rfl⟩ := h
  have hgrows : ∀ (steps : List Step) (from_ : Place), .up ∉ steps →
      from_.length ≤ (destination from_ steps).length := by
    intro steps
    induction steps with
    | nil => exact fun _ _ => le_rfl
    | cons step steps ih =>
      intro from_ hsteps
      obtain ⟨hstep, hsteps⟩ := not_or.mp (mt List.mem_cons.mpr hsteps)
      refine Nat.le_trans ?_ (ih (Step.follow from_ step) hsteps)
      cases step with
      | stay => exact le_rfl
      | up => exact absurd rfl hstep
      | down name => exact Nat.le_succ _
  rw [← hrest] at hup ⊢
  rw [destination, destination, List.foldl_append]
  exact hgrows rest _ fun hmem => hup (List.mem_append_right _ hmem)

end Path

namespace Disk

variable {d e f : Disk} {path : Path} {place : Place} {made made' : Place → Prop}

/-! ## Disks on which directories are made -/

/-- Nothing has happened on a disk but that directories have been made, at some of given places. -/
structure GrowsBy (made : Place → Prop) (d e : Disk) : Prop extends d.Grows e where
  only : ∀ place entry, e.at? place = some entry →
    d.at? place = some entry ∨ entry = .directory ∧ made place

theorem GrowsBy.refl (d : Disk) : d.GrowsBy made d := ⟨.refl d, fun _ _ h => .inl h⟩

theorem GrowsBy.trans (h : d.GrowsBy made e) (h' : e.GrowsBy made f) : d.GrowsBy made f := by
  refine ⟨h.toGrows.trans h'.toGrows, fun place entry hentry => ?_⟩
  rcases h'.only place entry hentry with hentry | hmade
  · exact h.only place entry hentry
  · exact .inr hmade

theorem GrowsBy.mono (h : d.GrowsBy made e) (hmade : ∀ place, made place → made' place) :
    d.GrowsBy made' e :=
  ⟨h.toGrows, fun place entry hentry => (h.only place entry hentry).imp_right
    fun ⟨hentry, hplace⟩ => ⟨hentry, hmade place hplace⟩⟩

theorem makeDirectory_eq_ok (h : d.makeDirectory path = .ok e) :
    d.locate path = .ok (d.destination path) ∧ d.at? (d.destination path) = none ∧
      d.destination path ≠ [] ∧ e = d.put (d.destination path) .directory := by
  unfold makeDirectory at h
  cases hlocate : d.locate path with
  | error error => simp [hlocate, bind, Except.bind] at h
  | ok place =>
    obtain rfl : place = d.destination path := locate_eq_destination hlocate
    simp only [hlocate, bind, Except.bind] at h
    split at h
    · cases h
    case h_2 hnone =>
      split at h
      · refine ⟨rfl, hnone, fun hroot => ?_, (Except.ok.inj h).symm⟩
        rw [hroot] at hnone
        cases hnone
      · cases h

theorem growsBy_makeDirectory (h : d.makeDirectory path = .ok e) :
    d.GrowsBy (· = d.destination path) e := by
  obtain ⟨-, -, hne, he⟩ := makeDirectory_eq_ok h
  refine ⟨grows_of_makeDirectory h, fun place entry hentry => ?_⟩
  rw [he, at?_put _ _ _ _ hne] at hentry
  split_ifs at hentry with hplace
  · exact .inr ⟨(Option.some.inj hentry).symm, hplace.symm⟩
  · exact .inl hentry

theorem growsBy_makeOne (path : Path) (d : Disk) :
    d.GrowsBy (· = d.destination path) (makeDirectories.makeOne path d).2 := by
  rw [makeOne_apply]
  cases hmake : d.makeDirectory path with
  | ok e => exact growsBy_makeDirectory hmake
  | error error =>
    dsimp only
    split_ifs <;> exact .refl d

theorem Grows.destination_eq (h : d.Grows e) (path : Path) :
    e.destination path = d.destination path := by
  rw [destination, destination, start, start, h.current]

theorem growsBy_makeDirectories (parents : List Path) (d : Disk) :
    d.GrowsBy (fun place => ∃ path ∈ parents, place = d.destination path)
      (makeDirectories parents d).2 := by
  induction parents generalizing d with
  | nil => exact .refl d
  | cons path above ih =>
    have hone : ∀ {e : Disk}, d.GrowsBy (fun place => ∃ p ∈ above, place = d.destination p) e →
        d.GrowsBy (fun place => ∃ p ∈ path :: above, place = d.destination p)
          (makeDirectories.makeOne path e).2 := by
      intro e he
      have hpath := growsBy_makeOne path e
      rw [he.destination_eq] at hpath
      exact (he.mono fun place ⟨p, hp, hplace⟩ => ⟨p, by simp [hp], hplace⟩).trans
        (hpath.mono fun place hplace => ⟨path, by simp, hplace⟩)
    rw [makeDirectories_cons]
    split_ifs with hempty
    · exact .refl d
    · split
      · rw [DiskAction.bind_apply]
        have habove := ih d
        rcases hmake : makeDirectories above d with ⟨r, e⟩
        rw [hmake] at habove
        cases r with
        | error error =>
          exact habove.mono fun place ⟨p, hp, hplace⟩ => ⟨p, by simp [hp], hplace⟩
        | ok u => exact hone habove
      · exact hone (.refl d)

theorem prepareOutput_apply (path : Path) (allow : Bool) (d : Disk) :
    prepareOutput path allow d =
      if d.contains path = true then
        if d.isDirectory path = false then (.error (.notADirectory path), d)
        else if allow = false then (.error (.exists path), d)
        else (.ok (), d)
      else (makeDirectoryTree path).mapFailure .io d := by
  rw [prepareOutput, DiskAction.bind_apply, DiskAction.get_apply]
  dsimp only
  cases d.contains path <;> cases d.isDirectory path <;> cases allow <;> rfl

/-- Preparing an output directory makes only directories, at places that its path passes. -/
theorem growsBy_prepareOutput (path : Path) (allow : Bool) (d : Disk) :
    d.GrowsBy (path.Passes (d.start path)) (prepareOutput path allow d).2 := by
  have htree : d.GrowsBy (path.Passes (d.start path)) (makeDirectoryTree path d).2 := by
    refine (growsBy_makeDirectories _ d).mono ?_
    rintro place ⟨above, habove, rfl⟩
    have hisAbove := Path.isAbove_of_mem_ancestors habove
    have hstart : d.start above = d.start path := by rw [start, start, hisAbove.isAbsolute]
    rw [destination, hstart]
    exact hisAbove.passes
  rw [prepareOutput_apply]
  split_ifs
  · exact .refl d
  · exact .refl d
  · exact .refl d
  · exact htree

theorem growsBy_of_prepareOutput {allow : Bool} {r : Except OutputFault Unit}
    (h : prepareOutput path allow d = (r, e)) : d.GrowsBy (path.Passes (d.start path)) e := by
  have hgrows := growsBy_prepareOutput path allow d
  rwa [h] at hgrows

/-! ## The directory that is made -/

theorem isDirectory_of_makeOne (h : makeDirectories.makeOne path d = (.ok (), e)) :
    e.isDirectory path = true := by
  rw [makeOne_apply] at h
  cases hmake : d.makeDirectory path with
  | ok d' =>
    rw [hmake] at h
    cases h
    obtain ⟨hlocate, -, hplace, he⟩ := makeDirectory_eq_ok hmake
    have hgrows := grows_of_makeDirectory hmake
    obtain ⟨htext, hwalk⟩ := locate_eq_ok.mp hlocate
    refine isDirectory_iff.mpr ⟨d.destination path, locate_eq_ok.mpr ⟨htext, ?_⟩, ?_⟩
    · rw [start, ← hgrows.current]
      exact walk_eq_ok_of_directories (fun q => hgrows.at?_eq q .directory) hwalk
    · rw [he, at?_put _ _ _ _ hplace, if_pos rfl]
  | error error =>
    rw [hmake] at h
    dsimp only at h
    split_ifs at h with hdirectory
    · cases h
      exact hdirectory
    · cases h

/-- An output directory is there once it is prepared. Only the empty path is none of a directory. -/
theorem isDirectory_of_prepareOutput {allow : Bool} (h : prepareOutput path allow d = (.ok (), e))
    (hne : path.text ≠ "") : e.isDirectory path = true := by
  rw [prepareOutput_apply] at h
  split_ifs at h with hcontains hdirectory hallow
  · cases h
  · cases h
  · cases h
    simpa using hdirectory
  · have hmade := DiskAction.mapFailure_eq_ok.mp h
    obtain ⟨parents, hparents⟩ : ∃ parents, ancestors path.parts.length path = path :: parents := by
      cases path.parts.length with
      | zero => exact ⟨[], rfl⟩
      | succ count =>
        unfold ancestors
        cases path.parent? with
        | none => exact ⟨[], rfl⟩
        | some parent => exact ⟨_, rfl⟩
    rw [makeDirectoryTree, hparents, makeDirectories_cons, if_neg hne] at hmade
    split at hmade
    · obtain ⟨u, d', -, hmade⟩ := DiskAction.bind_eq_ok.mp hmade
      exact isDirectory_of_makeOne hmade
    · exact isDirectory_of_makeOne hmade

/-- It is where its path leads. -/
theorem locate_of_prepareOutput {allow : Bool} (h : prepareOutput path allow d = (.ok (), e))
    (hne : path.text ≠ "") :
    e.locate path = .ok (d.destination path) ∧ e.at? (d.destination path) = some .directory := by
  obtain ⟨place, hlocate, hdirectory⟩ := isDirectory_iff.mp (isDirectory_of_prepareOutput h hne)
  obtain rfl : place = d.destination path := by
    rw [← (growsBy_of_prepareOutput h).destination_eq]
    exact locate_eq_destination hlocate
  exact ⟨hlocate, hdirectory⟩

/-- The empty path leads to the current directory. -/
theorem destination_eq_current (h : path.text = "") : d.destination path = d.current := by
  cases path
  cases h
  rfl

theorem textFault?_join_eq_none {name : String} (hname : IsEntryName name)
    (hnull : '\x00' ∉ path.text.toList)
    (hsize : (path.join name).text.utf8ByteSize ≤ maxPathBytes) :
    (path.join name).textFault? = none := by
  obtain ⟨slash, hslash, htext⟩ := Path.toList_text_join (p := path) hname
  have hjoined : '\x00' ∉ (path.join name).text.toList := by
    rw [htext]
    rcases hslash with rfl | rfl <;> simp [hnull, hname.no_null]
  simp [Path.textFault?, Path.text_join_ne_empty hname, hjoined, Nat.not_lt.mpr hsize]

/-- The entries of an output directory are in it once it is prepared, if their paths are not too
long. The entries for an empty path are those of the current directory. -/
theorem locate_join_of_prepareOutput {allow : Bool} {name : String}
    (hcurrent : d.at? d.current = some .directory)
    (h : prepareOutput path allow d = (.ok (), e)) (hname : IsEntryName name)
    (hsize : (path.join name).text.utf8ByteSize ≤ maxPathBytes) :
    e.locate (path.join name) = .ok (name :: d.destination path) := by
  refine (locate_join hname).mpr ?_
  by_cases hempty : path.text = ""
  · have hgrows := growsBy_of_prepareOutput h
    have hwalk : e.walk (e.start path) path.steps = .ok d.current := by
      rw [start, hgrows.current]
      cases path
      cases hempty
      rfl
    exact ⟨textFault?_join_eq_none hname (by simp [hempty]) hsize, d.current, hwalk,
      hgrows.at?_eq _ _ hcurrent, by rw [destination_eq_current hempty]⟩
  · obtain ⟨hlocate, hdirectory⟩ := locate_of_prepareOutput h hempty
    obtain ⟨htext, hwalk⟩ := locate_eq_ok.mp hlocate
    have hnull : '\x00' ∉ path.text.toList := by
      intro hnull
      simp [Path.textFault?, hempty, hnull] at htext
    exact ⟨textFault?_join_eq_none hname hnull hsize, _, hwalk, hdirectory, rfl⟩

/-! ## Trees -/

/-- Every entry is in a directory, and so is one who works there. -/
structure IsTree (d : Disk) : Prop where
  current : d.at? d.current = some .directory
  parent : ∀ name place entry, d.at? (name :: place) = some entry →
    d.at? place = some .directory

/-- There is nothing below a place where nothing is. -/
theorem IsTree.at?_cons_eq_none (h : d.IsTree) (hnone : d.at? place = none) (name : String) :
    d.at? (name :: place) = none := by
  cases hentry : d.at? (name :: place) with
  | none => rfl
  | some entry =>
    rw [h.parent name place entry hentry] at hnone
    cases hnone

/-- An output directory that was not there holds only directories when it has been prepared: those
that its path goes into before it goes back up. -/
theorem IsTree.of_prepareOutput {allow : Bool} {name : String} {entry : Entry} (htree : d.IsTree)
    (hnone : d.at? (d.destination path) = none) (h : prepareOutput path allow d = (.ok (), e))
    (hentry : e.at? (name :: d.destination path) = some entry) :
    entry = .directory ∧ path.Passes (d.start path) (name :: d.destination path) ∧
      .up ∈ path.steps := by
  rcases (growsBy_of_prepareOutput h).only _ entry hentry with hentry | ⟨rfl, hpasses⟩
  · rw [htree.at?_cons_eq_none hnone name] at hentry
    cases hentry
  · refine ⟨rfl, hpasses, ?_⟩
    by_contra hup
    have hlength := hpasses.length_le hup
    rw [List.length_cons] at hlength
    exact absurd hlength (Nat.not_succ_le_self _)

end Disk

end RackTraffic
