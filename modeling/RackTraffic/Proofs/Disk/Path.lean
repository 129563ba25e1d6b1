import Mathlib.Data.List.Basic
import RackTraffic.Proofs.Disk.Basic

/-!
# Paths into a directory

The name of an entry is joined to the path of a directory to make the path of the entry. This path
is followed as the path of the directory is, and then down to the name (`steps_join`). So if the
first path leads to a directory, the second leads to the place right below it (`walk_join`).
-/

namespace RackTraffic

/-- A text that can be the name of an entry. -/
structure IsEntryName (name : String) : Prop where
  no_slash : '/' ∉ name.toList
  no_null : '\x00' ∉ name.toList
  ne_empty : name ≠ ""
  ne_dot : name ≠ "."
  ne_dots : name ≠ ".."
  short : name.utf8ByteSize ≤ Disk.maxNameBytes

theorem utf8ByteSize_ofList_le (cs : List Char) :
    (String.ofList cs).utf8ByteSize ≤ 4 * cs.length := by
  induction cs with
  | nil => simp
  | cons c cs ih =>
    rw [String.ofList_cons, String.utf8ByteSize_append, String.utf8ByteSize_singleton,
      List.length_cons]
    have := c.utf8Size_le_four
    omega

theorem utf8ByteSize_slashes (n : Nat) :
    (String.ofList (List.replicate n '/')).utf8ByteSize = n := by
  induction n with
  | zero => rfl
  | succ n ih =>
    rw [List.replicate_succ, String.ofList_cons, String.utf8ByteSize_append,
      String.utf8ByteSize_singleton, ih, Nat.add_comm]
    rfl

namespace IsEntryName

variable {name : String}

theorem toList_ne_nil (h : IsEntryName name) : name.toList ≠ [] := by
  simpa [String.toList_eq_nil_iff] using h.ne_empty

theorem head?_ne_slash (h : IsEntryName name) : name.toList.head? ≠ some '/' := by
  intro hhead
  exact h.no_slash (List.mem_of_mem_head? hhead)

theorem getLast?_ne_slash (h : IsEntryName name) : name.toList.getLast? ≠ some '/' := by
  intro hlast
  exact h.no_slash (List.mem_of_getLast? hlast)

theorem stepOfPiece?_eq (h : IsEntryName name) : Path.stepOfPiece? name = some (.down name) := by
  simp [Path.stepOfPiece?, h.ne_empty, h.ne_dot, h.ne_dots]

end IsEntryName

namespace Path

variable {p : Path} {name : String}

/-! ## Joining -/

theorem toList_text_join (h : IsEntryName name) : ∃ slash, (slash = [] ∨ slash = ['/']) ∧
    (p.join name).text.toList = p.text.toList ++ slash ++ name.toList := by
  unfold join
  rw [if_neg h.head?_ne_slash]
  split_ifs
  · exact ⟨[], .inl rfl, by simp⟩
  · exact ⟨['/'], .inr rfl, by simp⟩

theorem isAbsolute_join (h : IsEntryName name) : (p.join name).isAbsolute = p.isAbsolute := by
  unfold join
  rw [if_neg h.head?_ne_slash]
  split_ifs with hp
  · rcases hp with hp | hp
    · simp [isAbsolute, hp, h.head?_ne_slash]
    · have hne : p.text.toList ≠ [] := by
        rintro h
        simp [h] at hp
      obtain ⟨c, rest, hc⟩ := List.exists_cons_of_ne_nil hne
      simp [isAbsolute, hc]
  · rw [not_or] at hp
    obtain ⟨c, rest, hc⟩ := List.exists_cons_of_ne_nil hp.1
    simp [isAbsolute, hc]

/-- The name is the last piece. Before it stand the pieces of the path, without the empty one after
a slash at its end. -/
theorem pieces_join (h : IsEntryName name) : ∃ pieces,
    (p.join name).pieces = pieces ++ [name] ∧ (p.pieces = pieces ∨ p.pieces = pieces ++ [""]) := by
  have hname : name.toList.splitOn '/' = [name.toList] := List.splitOn_eq_singleton h.no_slash
  unfold join
  rw [if_neg h.head?_ne_slash]
  split_ifs with hp
  · rcases hp with hp | hp
    · exact ⟨[], by simp [pieces, hp, hname], .inr (by simp [pieces, hp])⟩
    · obtain ⟨front, hfront⟩ := List.getLast?_eq_some_iff.mp hp
      refine ⟨(front.splitOn '/').map String.ofList, ?_, .inr ?_⟩
      · simp [pieces, hfront, List.splitOn_append_cons_self, hname]
      · simp [pieces, hfront, List.splitOn_append_cons_self]
  · exact ⟨p.pieces, by simp [pieces, List.splitOn_append_cons_self, hname], .inl rfl⟩

/-- An entry of a directory is reached through the directory. -/
theorem steps_join (h : IsEntryName name) : (p.join name).steps = p.steps ++ [.down name] := by
  have hstep : [name].filterMap stepOfPiece? = [.down name] := by
    rw [List.filterMap_cons_some h.stepOfPiece?_eq, List.filterMap_nil]
  have hempty : [""].filterMap stepOfPiece? = [] := by decide
  obtain ⟨pieces, hjoin, hp⟩ := pieces_join (p := p) h
  rw [steps, steps, hjoin, List.filterMap_append, hstep]
  rcases hp with hp | hp
  · rw [hp]
  · rw [hp, List.filterMap_append, hempty, List.append_nil]

theorem endsInSlash_join (h : IsEntryName name) : (p.join name).endsInSlash = false := by
  obtain ⟨slash, -, htext⟩ := toList_text_join (p := p) h
  simp [endsInSlash, htext, List.getLast?_append, h.toList_ne_nil, h.getLast?_ne_slash]

theorem endsInName_join (h : IsEntryName name) : (p.join name).endsInName = true := by
  simp [endsInName, steps_join h]

/-- The fault of a path that is not followed at all, whatever the disk. -/
def textFault? (p : Path) : Option IoError :=
  if p.text = "" then some .notFound
  else if p.text.toList.contains '\x00' then some .nullInPath
  else if Disk.maxPathBytes < p.text.utf8ByteSize then some .nameTooLong
  else none

theorem text_join_ne_empty (h : IsEntryName name) : (p.join name).text ≠ "" := by
  intro hempty
  obtain ⟨slash, -, htext⟩ := toList_text_join (p := p) h
  rw [hempty] at htext
  simp [h.ne_empty] at htext

theorem textFault?_join_ne_notFound (h : IsEntryName name) :
    (p.join name).textFault? ≠ some .notFound := by
  rw [textFault?, if_neg (text_join_ne_empty h)]
  split_ifs <;> simp

/-- A path with nothing but its length against it is not followed, either. -/
theorem textFault?_join_of_long (hname : IsEntryName name) (hnull : '\x00' ∉ p.text.toList)
    (hlong : Disk.maxPathBytes < (p.join name).text.utf8ByteSize) :
    (p.join name).textFault? = some .nameTooLong := by
  obtain ⟨slash, hslash, htext⟩ := toList_text_join (p := p) hname
  have hjoined : '\x00' ∉ (p.join name).text.toList := by
    rcases hslash with rfl | rfl <;> simp [htext, hnull, hname.no_null]
  simp [textFault?, text_join_ne_empty hname, hjoined, hlong]

/-- Slashes at the end of a path lead nowhere. -/
theorem steps_append_slashes (text : String) (n : Nat) :
    (⟨text ++ String.ofList (List.replicate n '/')⟩ : Path).steps = (⟨text⟩ : Path).steps := by
  induction n with
  | zero => simp
  | succ n ih =>
    have hempty : [""].filterMap stepOfPiece? = [] := by decide
    rw [← ih, List.replicate_succ']
    simp [steps, pieces, ← List.append_assoc, List.splitOn_append_cons_self, hempty]

end Path

namespace Disk

variable {d e : Disk} {directory : Path} {name : String} {place : Place}

/-! ## Following a path into a directory -/

/-- Where following a path starts. -/
def start (d : Disk) (path : Path) : Place := if path.isAbsolute then [] else d.current

theorem walk_append (place : Place) (first second : List Path.Step) :
    d.walk place (first ++ second) = (d.walk place first).bind fun p => d.walk p second := by
  induction first generalizing place with
  | nil => rfl
  | cons step first ih =>
    simp only [List.cons_append, walk]
    cases d.at? place with
    | none => rfl
    | some entry =>
      cases entry with
      | file contents executable => rfl
      | directory =>
        cases step with
        | stay => exact ih place
        | up => exact ih place.tail
        | down name =>
          dsimp only
          split_ifs
          · rfl
          · exact ih (name :: place)

/-- From a directory a step to a name leads right below it; from anywhere else it leads nowhere. -/
theorem walk_down (h : IsEntryName name) {p : Place} :
    d.walk p [.down name] = .ok place ↔ d.at? p = some .directory ∧ place = name :: p := by
  rw [walk]
  cases d.at? p with
  | none => simp
  | some entry =>
    cases entry with
    | file contents executable => simp
    | directory => simp [walk, Nat.not_lt.mpr h.short, eq_comm]

/-- The entry of a directory is right below the place of the directory. -/
theorem walk_join (h : IsEntryName name) :
    d.walk (d.start (directory.join name)) (directory.join name).steps = .ok place ↔
      ∃ p, d.walk (d.start directory) directory.steps = .ok p ∧ d.at? p = some .directory ∧
        place = name :: p := by
  rw [start, Path.isAbsolute_join h, Path.steps_join h, walk_append]
  cases hwalk : d.walk (d.start directory) directory.steps with
  | error error => simp [start] at hwalk; simp [hwalk, Except.bind]
  | ok p => simp [start] at hwalk; simp [hwalk, Except.bind, walk_down h]

theorem locate_eq (d : Disk) (path : Path) :
    d.locate path = match path.textFault? with
      | some fault => .error fault
      | none => d.walk (d.start path) path.steps := by
  have hwalk : d.walk (if path.isAbsolute then [] else d.current) path.steps =
      d.walk (d.start path) path.steps := rfl
  rw [locate, hwalk, Path.textFault?]
  split_ifs <;> rfl

theorem locate_eq_ok {path : Path} :
    d.locate path = .ok place ↔
      path.textFault? = none ∧ d.walk (d.start path) path.steps = .ok place := by
  rw [locate_eq]
  cases path.textFault? <;> simp

/-- The entry of a directory is right below the place of the directory. -/
theorem locate_join (h : IsEntryName name) :
    d.locate (directory.join name) = .ok place ↔
      (directory.join name).textFault? = none ∧
        ∃ p, d.walk (d.start directory) directory.steps = .ok p ∧ d.at? p = some .directory ∧
          place = name :: p := by
  rw [locate_eq_ok, walk_join h]

end Disk

end RackTraffic
