import RackTraffic.Proofs.Disk.Agreement
import RackTraffic.Proofs.Lists
import RackTraffic.Simulation.Launch

/-!
# Paths from the root

Which place a path leads to, if it leads anywhere, depends only on where it starts and on its steps
(`walk_eq_destination`). So two paths to an entry of a directory lead to the same place: the one
that is written, and the one from the root that is made of it before a program is started
(`locate_absolute`). Only whether they lead anywhere depends on the disk.
-/

namespace RackTraffic

namespace Path

/-! ## Destinations -/

/-- Where a step leads if it leads anywhere. -/
def Step.follow (place : Place) : Step → Place
  | .stay => place
  | .up => place.tail
  | .down name => name :: place

/-- Where steps lead if they lead anywhere. -/
def destination (place : Place) (steps : List Step) : Place := steps.foldl Step.follow place

/-- Staying leads nowhere else. -/
theorem destination_filter (place : Place) (steps : List Step) :
    destination place (steps.filter (· ≠ .stay)) = destination place steps := by
  induction steps generalizing place with
  | nil => rfl
  | cons step steps ih =>
    cases step with
    | stay => exact ih place
    | up => exact ih place.tail
    | down name => exact ih (name :: place)

theorem destination_down (place names : Place) :
    destination place (names.map .down) = names.reverse ++ place := by
  induction names generalizing place with
  | nil => rfl
  | cons name names ih =>
    rw [List.reverse_cons, List.append_assoc]
    exact ih (name :: place)

/-! ## Texts made of pieces -/

theorem pieces_intercalate {texts : List String} (hslash : ∀ text ∈ texts, '/' ∉ text.toList)
    (hne : texts ≠ []) : (⟨"/".intercalate texts⟩ : Path).pieces = texts := by
  have hsplit : (['/'].intercalate (texts.map String.toList)).splitOn '/' =
      texts.map String.toList :=
    List.splitOn_intercalate '/' (by simpa using hslash) (by simpa using hne)
  rw [pieces, String.toList_intercalate]
  rw [show "/".toList = ['/'] by decide, hsplit, List.map_map]
  simp

/-- A piece is made of characters of the path that are no slashes. -/
theorem mem_of_mem_pieces {p : Path} {piece : String} (h : piece ∈ p.pieces) {c : Char}
    (hc : c ∈ piece.toList) : c ∈ p.text.toList ∧ c ≠ '/' := by
  obtain ⟨l, hl, rfl⟩ := List.mem_map.mp h
  exact mem_of_mem_splitOn hl (by simpa using hc)

theorem no_slash_of_mem_pieces {p : Path} {piece : String} (h : piece ∈ p.pieces) :
    '/' ∉ piece.toList := fun hslash => (mem_of_mem_pieces h hslash).2 rfl

theorem no_null_of_mem_pieces {p : Path} (htext : p.textFault? = none) {piece : String}
    (h : piece ∈ p.pieces) : '\x00' ∉ piece.toList := by
  intro hnull
  unfold textFault? at htext
  split_ifs at htext with hempty htextNull
  exact htextNull (by simpa using (mem_of_mem_pieces h hnull).1)

/-! ## The parts of a path -/

/-- The step that a part stands for. The parts for the start are no steps. -/
def Part.step? : Part → Option Step
  | .root | .here => none
  | .above => some .up
  | .name text => some (.down text)

/-- A part that can come from a path. -/
def Part.IsProper : Part → Prop
  | .name text => '/' ∉ text.toList ∧ text ≠ "" ∧ text ≠ "." ∧ text ≠ ".."
  | _ => True

theorem isProper_of_mem_parts {p : Path} {part : Part} (h : part ∈ p.parts) : part.IsProper := by
  have hrest : ∀ part ∈ p.pieces.filterMap partOfPiece?, part.IsProper := by
    intro part hpart
    obtain ⟨piece, hpiece, heq⟩ := List.mem_filterMap.mp hpart
    unfold partOfPiece? at heq
    split_ifs at heq with hnone hdots <;> cases heq
    · trivial
    · rw [not_or] at hnone
      exact ⟨no_slash_of_mem_pieces hpiece, hnone.1, hnone.2, hdots⟩
  unfold parts at h
  split_ifs at h
  · rcases List.mem_cons.mp h with rfl | h
    · trivial
    · exact hrest part h
  · rcases List.mem_cons.mp h with rfl | h
    · trivial
    · exact hrest part h
  · exact hrest part h

/-- The steps of a path that lead elsewhere are those of its parts. -/
theorem filter_steps (p : Path) : p.steps.filter (· ≠ .stay) = p.parts.filterMap Part.step? := by
  have hpieces : ∀ pieces : List String, (pieces.filterMap stepOfPiece?).filter (· ≠ .stay) =
      (pieces.filterMap partOfPiece?).filterMap Part.step? := by
    intro pieces
    induction pieces with
    | nil => rfl
    | cons piece pieces ih =>
      by_cases hempty : piece = ""
      · simpa [List.filterMap_cons, stepOfPiece?, partOfPiece?, hempty] using ih
      by_cases hdot : piece = "."
      · simpa [List.filterMap_cons, stepOfPiece?, partOfPiece?, hdot] using ih
      by_cases hdots : piece = ".."
      · simpa [List.filterMap_cons, stepOfPiece?, partOfPiece?, hdots, Part.step?] using ih
      · simpa [List.filterMap_cons, stepOfPiece?, partOfPiece?, hempty, hdot, hdots,
          Part.step?] using ih
  rw [steps, hpieces, parts]
  split_ifs <;> rfl

theorem Part.IsProper.no_slash {part : Part} (h : part.IsProper) : '/' ∉ part.text.toList := by
  cases part with
  | name text => exact h.1
  | root => decide
  | here => decide
  | above => decide

/-- A part is written as the piece that stands for its step. -/
theorem filter_stepOfPiece?_text {parts : List Part} (h : ∀ part ∈ parts, part.IsProper) :
    ((parts.map Part.text).filterMap stepOfPiece?).filter (· ≠ .stay) =
      parts.filterMap Part.step? := by
  induction parts with
  | nil => rfl
  | cons part parts ih =>
    have ih := ih fun q hq => h q (by simp [hq])
    cases part with
    | root => simpa [List.filterMap_cons, stepOfPiece?, Part.text, Part.step?] using ih
    | here => simpa [List.filterMap_cons, stepOfPiece?, Part.text, Part.step?] using ih
    | above => simpa [List.filterMap_cons, stepOfPiece?, Part.text, Part.step?] using ih
    | name text =>
      obtain ⟨-, hempty, hdot, hdots⟩ := h (.name text) (by simp)
      simpa [List.filterMap_cons, stepOfPiece?, Part.text, Part.step?, hempty, hdot, hdots] using ih

/-- The steps of a path made of parts are those of the parts. -/
theorem filter_steps_ofParts {parts : List Part} (h : ∀ part ∈ parts, part.IsProper) :
    (ofParts parts).steps.filter (· ≠ .stay) = parts.filterMap Part.step? := by
  unfold ofParts
  split
  · decide
  · rcases eq_or_ne parts [] with rfl | hne
    · decide
    · have hslash : ∀ text ∈ parts.map Part.text, '/' ∉ text.toList := by
        intro text htext
        obtain ⟨part, hpart, rfl⟩ := List.mem_map.mp htext
        exact (h part hpart).no_slash
      rw [steps, pieces_intercalate hslash (by simpa using hne), filter_stepOfPiece?_text h]

/-- A part that is not the root is written with something other than a slash first. -/
theorem Part.IsProper.exists_text_eq_cons {part : Part} (h : part.IsProper) (hroot : part ≠ .root) :
    ∃ c cs, part.text.toList = c :: cs ∧ c ≠ '/' := by
  have hne : part.text.toList ≠ [] := by
    cases part with
    | root => exact absurd rfl hroot
    | here => decide
    | above => decide
    | name text => simpa [Part.text] using h.2.1
  obtain ⟨c, cs, hcs⟩ := List.exists_cons_of_ne_nil hne
  refine ⟨c, cs, hcs, ?_⟩
  rintro rfl
  exact h.no_slash (by simp [hcs])

/-- A path made of parts starts at the root if the parts do. -/
theorem isAbsolute_ofParts {parts : List Part} (h : ∀ part ∈ parts, part.IsProper) :
    (ofParts parts).isAbsolute = true ↔ parts.head? = some .root := by
  unfold ofParts
  split
  · simp [isAbsolute]
  case h_2 hne =>
    cases parts with
    | nil => simp [isAbsolute]
    | cons part rest =>
      by_cases hroot : part = .root
      · have hrest : rest.map Part.text ≠ [] := by
          rintro hnil
          exact hne (by simp_all)
        subst hroot
        simp [isAbsolute, Part.text, String.intercalate_cons_of_ne_nil hrest]
      · obtain ⟨c, cs, hcs, hc⟩ := (h part (by simp)).exists_text_eq_cons hroot
        have hhead : (("/".intercalate ((part :: rest).map Part.text)).toList).head? = some c := by
          rcases eq_or_ne (rest.map Part.text) [] with hrest | hrest
          · simp [hrest, hcs]
          · simp [String.intercalate_cons_of_ne_nil hrest, hcs]
        rw [isAbsolute, hhead]
        simp [hc, hroot]

theorem head?_parts (p : Path) : p.parts.head? = some .root ↔ p.isAbsolute = true := by
  have hrest : (p.pieces.filterMap partOfPiece?).head? ≠ some .root := by
    intro hhead
    obtain ⟨piece, -, heq⟩ := List.mem_filterMap.mp (List.mem_of_mem_head? hhead)
    unfold partOfPiece? at heq
    split_ifs at heq <;> cases heq
  unfold parts
  split_ifs with habsolute hhere
  · simp [habsolute]
  · simp [habsolute]
  · exact iff_of_false hrest habsolute

/-! ## The directory of an entry -/

variable {p : Path} {name : String}

/-- The name is the last part. -/
theorem parts_join (h : IsEntryName name) : (p.join name).parts = p.parts ++ [.name name] := by
  have hname : partOfPiece? name = some (.name name) := by
    simp [partOfPiece?, h.ne_empty, h.ne_dot, h.ne_dots]
  obtain ⟨pieces, hjoin, hp⟩ := pieces_join (p := p) h
  have hrest : (p.join name).pieces.filterMap partOfPiece? =
      p.pieces.filterMap partOfPiece? ++ [.name name] := by
    rw [hjoin, List.filterMap_append, List.filterMap_cons_some hname, List.filterMap_nil]
    rcases hp with hp | hp
    · rw [hp]
    · rw [hp, List.filterMap_append]
      simp [partOfPiece?]
  have hhead : (p.join name).pieces.head? = some "." ↔ p.pieces.head? = some "." := by
    rw [hjoin]
    cases pieces with
    | nil =>
      rcases hp with hp | hp
      · simp [Path.pieces, List.splitOn_ne_nil] at hp
      · simp [hp, h.ne_dot]
    | cons piece pieces => rcases hp with hp | hp <;> simp [hp]
  unfold parts
  rw [isAbsolute_join h, hrest]
  simp only [hhead]
  split_ifs <;> rfl

theorem fileName?_join (h : IsEntryName name) : (p.join name).fileName? = some name := by
  simp [fileName?, parts_join h]

theorem directory_join (h : IsEntryName name) : (p.join name).directory =
    if (ofParts p.parts).text = "" then ⟨"."⟩ else ofParts p.parts := by
  simp [directory, parent?, parts_join h]

/-- The directory of an entry leads where the path of the directory leads. -/
theorem destination_directory_join (h : IsEntryName name) (place : Place) :
    destination place (p.join name).directory.steps = destination place p.steps := by
  have hproper : ∀ part ∈ p.parts, part.IsProper := fun _ => isProper_of_mem_parts
  have hsteps := filter_steps_ofParts hproper
  rw [← destination_filter place p.steps, filter_steps, ← hsteps, directory_join h]
  split_ifs with hempty
  · have hparts : ofParts p.parts = ⟨""⟩ := by
      rw [← hempty]
    rw [hparts]
    rfl
  · rw [destination_filter]

theorem isAbsolute_directory_join (h : IsEntryName name) :
    (p.join name).directory.isAbsolute = p.isAbsolute := by
  have hparts : (ofParts p.parts).isAbsolute = p.isAbsolute := by
    rw [Bool.eq_iff_iff, isAbsolute_ofParts fun part => isProper_of_mem_parts, head?_parts]
  rw [directory_join h, ← hparts]
  split_ifs with hempty
  · simp [isAbsolute, hempty]
  · rfl

end Path

namespace Disk

variable {d d' : Disk} {directory path out : Path} {name : String} {p q place : Place}

/-! ## Paths from the root -/

/-- A path leads to its destination or nowhere. -/
theorem walk_eq_destination {steps : List Path.Step} (h : d.walk p steps = .ok q) :
    q = Path.destination p steps := by
  induction steps generalizing p with
  | nil => exact (Except.ok.inj h).symm
  | cons step steps ih =>
    simp only [walk] at h
    split at h
    · cases h
    · cases h
    · cases step with
      | stay => exact ih h
      | up => exact ih h
      | down name =>
        dsimp only at h
        split_ifs at h
        exact ih h

theorem locate_eq_destination (h : d.locate path = .ok place) :
    place = Path.destination (d.start path) path.steps :=
  walk_eq_destination (locate_eq_ok.mp h).2

/-- The place of an entry of a directory, if its path leads anywhere. -/
theorem locate_join_eq (hname : IsEntryName name)
    (h : d.locate (directory.join name) = .ok place) :
    place = name :: Path.destination (d.start directory) directory.steps := by
  obtain ⟨-, p, hwalk, -, rfl⟩ := (locate_join hname).mp h
  rw [walk_eq_destination hwalk]

/-- The names on a way are names of entries, if those where it starts are. -/
theorem isEntryName_of_walk {steps : List Path.Step}
    (hsteps : ∀ name, .down name ∈ steps → name.utf8ByteSize ≤ maxNameBytes → IsEntryName name)
    (hp : ∀ name ∈ p, IsEntryName name) (h : d.walk p steps = .ok q) :
    ∀ name ∈ q, IsEntryName name := by
  induction steps generalizing p with
  | nil => exact Except.ok.inj h ▸ hp
  | cons step steps ih =>
    have hrest : ∀ name, .down name ∈ steps → name.utf8ByteSize ≤ maxNameBytes →
        IsEntryName name := fun name hname => hsteps name (by simp [hname])
    simp only [walk] at h
    split at h
    · cases h
    · cases h
    · cases step with
      | stay => exact ih hrest hp h
      | up => exact ih hrest (fun name hname => hp name (List.mem_of_mem_tail hname)) h
      | down name =>
        dsimp only at h
        split_ifs at h with hlong
        refine ih hrest (fun other hother => ?_) h
        rcases List.mem_cons.mp hother with rfl | hother
        · exact hsteps _ (by simp) (Nat.le_of_not_lt hlong)
        · exact hp other hother

/-- The names on the way to a place that a path leads to are names of entries, if those of the
current directory are. -/
theorem isEntryName_of_locate (hcurrent : ∀ name ∈ d.current, IsEntryName name)
    (h : d.locate path = .ok place) : ∀ name ∈ place, IsEntryName name := by
  obtain ⟨htext, hwalk⟩ := locate_eq_ok.mp h
  refine isEntryName_of_walk (fun name hname hshort => ?_) ?_ hwalk
  · obtain ⟨piece, hpiece, hstep⟩ := List.mem_filterMap.mp hname
    unfold Path.stepOfPiece? at hstep
    split_ifs at hstep with hempty hdot hdots
    · cases hstep
    · cases hstep
    · cases hstep
      exact ⟨Path.no_slash_of_mem_pieces hpiece, Path.no_null_of_mem_pieces htext hpiece, hempty,
        hdot, hdots, hshort⟩
  · unfold start
    split_ifs
    · nofun
    · exact hcurrent

/-! ## The path to a place -/

theorem toList_pathTo (place : Place) :
    (pathTo place).text.toList = '/' :: ("/".intercalate place.reverse).toList := by
  simp [pathTo]

theorem isAbsolute_pathTo (place : Place) : (pathTo place).isAbsolute = true := by
  simp [Path.isAbsolute, toList_pathTo]

/-- The path to a place goes down to it, name by name. -/
theorem steps_pathTo (h : ∀ name ∈ place, IsEntryName name) :
    (pathTo place).steps = place.reverse.map .down := by
  have hnames : ∀ names : List String, (∀ name ∈ names, IsEntryName name) →
      names.filterMap Path.stepOfPiece? = names.map .down := by
    intro names hnames
    induction names with
    | nil => rfl
    | cons name names ih =>
      rw [List.filterMap_cons_some (hnames name (by simp)).stepOfPiece?_eq, List.map_cons,
        ih fun other hother => hnames other (by simp [hother])]
  have hpieces : (pathTo place).pieces =
      "" :: (⟨"/".intercalate place.reverse⟩ : Path).pieces := by
    rw [Path.pieces, toList_pathTo, List.splitOn_cons_eq_if_modifyHead]
    simp [Path.pieces]
  rw [Path.steps, hpieces, List.filterMap_cons_none (by decide)]
  rcases eq_or_ne place [] with rfl | hne
  · decide
  · rw [Path.pieces_intercalate (by simpa using fun name hname => (h name hname).no_slash)
      (by simpa using hne), hnames _ (by simpa using h)]

theorem destination_pathTo (h : ∀ name ∈ place, IsEntryName name) :
    Path.destination (d.start (pathTo place)) (pathTo place).steps = place := by
  rw [steps_pathTo h, Path.destination_down, start, if_pos (isAbsolute_pathTo place),
    List.reverse_reverse, List.append_nil]

/-! ## The entry of a directory -/

theorem absolute_join_eq_ok (hname : IsEntryName name) :
    d.absolute (directory.join name) = .ok out ↔
      ∃ home, d.canonical (directory.join name).directory = .ok home ∧ out = home.join name := by
  rw [absolute, Path.fileName?_join hname]
  cases d.canonical (directory.join name).directory with
  | error error => simp [Except.map]
  | ok home => simp [Except.map, eq_comm]

/-- **The path from the root leads to the same place.** Where it leads anywhere, even on another
disk, it leads to where the path that is written leads if that one leads anywhere. -/
theorem locate_absolute (hcurrent : ∀ name ∈ d.current, IsEntryName name) (hname : IsEntryName name)
    (habsolute : d.absolute (directory.join name) = .ok out) (h : d'.locate out = .ok place) :
    place = name :: Path.destination (d.start directory) directory.steps := by
  obtain ⟨home, hhome, rfl⟩ := (absolute_join_eq_ok hname).mp habsolute
  obtain ⟨⟨p, entry⟩, hfind, rfl⟩ : ∃ found, d.find (directory.join name).directory = .ok found ∧
      home = pathTo found.1 := by
    rw [canonical] at hhome
    cases hfind : d.find (directory.join name).directory with
    | error error => simp [hfind, bind, Except.bind] at hhome
    | ok found =>
      simp only [hfind, bind, Except.bind, pure, Except.pure, Except.ok.injEq] at hhome
      exact ⟨found, rfl, hhome.symm⟩
  have hlocate := locate_of_resolve (find_eq_ok.mp hfind).1
  have hp : p = Path.destination (d.start directory) directory.steps := by
    rw [locate_eq_destination hlocate, Path.destination_directory_join hname, start,
      Path.isAbsolute_directory_join hname, start]
  rw [locate_join_eq hname h, destination_pathTo (isEntryName_of_locate hcurrent hlocate), hp]

end Disk

end RackTraffic
