import Mathlib.Data.List.Sort
import RackTraffic.Proofs.Text.Blank
import RackTraffic.Text.Lines

/-!
# The lines of a text

A text is made of lines in one way (`isLinesOf_iff`). What readers of logs and results take from it
are its lines less the blanks at their ends, without those that are blank then (`trimmedLines`).

**Respacing.** Blanks may be added at the ends of lines, and blank lines between them (`Respaced`);
the carriage return of an ending is such a blank. This does not change the trimmed lines
(`Respaced.trimmedLines_eq`): at a line feed they fall into those before it and those after it
(`trimmedLines_append_feed`), and blanks at the end of a text make no difference to them
(`trimmedLines_append_blanks`). A text in which given lines are written, each ended in its way and
with blank lines between them, is what joining these lines gives after respacing (`LaysOut`).

**Cutting.** A text that is cut off has no trimmed line in full, or it begins with the same one
(`trimmedLines_of_append`).
-/

namespace RackTraffic.Text

/-! ## Splitting -/

/-- A text is made of lines. A line feed ends a line, and a carriage return just before the line
feed does not belong to the line. The last line may be without an ending, unless it is empty. -/
inductive IsLinesOf : List (List Char) → List Char → Prop where
  | nil : IsLinesOf [] []
  | last {line : List Char} (hfeed : '\n' ∉ line) (hne : line ≠ []) : IsLinesOf [line] line
  | feed {line s : List Char} {ls : List (List Char)} (hfeed : '\n' ∉ line)
      (hreturn : line.getLast? ≠ some '\r') (h : IsLinesOf ls s) :
      IsLinesOf (line :: ls) (line ++ '\n' :: s)
  | returnFeed {line s : List Char} {ls : List (List Char)} (hfeed : '\n' ∉ line)
      (h : IsLinesOf ls s) : IsLinesOf (line :: ls) (line ++ '\r' :: '\n' :: s)

/-- A text is a line without a line feed, or such a line stands in front of a line feed and a text.
-/
@[elab_as_elim]
theorem feedInduction {motive : List Char → Prop} (last : ∀ line, '\n' ∉ line → motive line)
    (feed : ∀ line s, '\n' ∉ line → motive s → motive (line ++ '\n' :: s)) (s : List Char) :
    motive s := by
  suffices h : ∀ line, '\n' ∉ line → motive (line ++ s) from h [] List.not_mem_nil
  induction s with
  | nil =>
    intro line hline
    rw [List.append_nil]
    exact last line hline
  | cons c s ih =>
    intro line hline
    by_cases hc : c = '\n'
    · subst hc
      exact feed line s hline (ih [] List.not_mem_nil)
    · have hconcat : '\n' ∉ line ++ [c] := by simp [hline, Ne.symm hc]
      simpa using ih (line ++ [c]) hconcat

@[simp] theorem lines_nil : lines [] = [] := by simp [lines]

theorem lines_of_no_feed {s : List Char} (h : '\n' ∉ s) (hne : s ≠ []) : lines s = [s] := by
  obtain ⟨c, rest, rfl⟩ := List.exists_cons_of_ne_nil hne
  simp [lines, List.splitOn_eq_singleton h]

/-- The lines of a text that has a line feed in it. -/
theorem lines_append_feed (s t : List Char) :
    lines (s ++ '\n' :: t) = (s.splitOn '\n').map dropReturn ++ lines t := by
  have hne : t.splitOn '\n' ≠ [] := List.splitOn_ne_nil _ _
  have hlast : (s.splitOn '\n' ++ t.splitOn '\n').getLast? = (t.splitOn '\n').getLast? := by
    rw [List.getLast?_append_of_ne_nil _ hne]
  unfold lines
  simp only [List.splitOn_append_cons_self, hlast, List.dropLast_append_of_ne_nil hne,
    List.map_append]
  split <;> simp

theorem lines_append_feed_of_no_feed {line : List Char} (h : '\n' ∉ line) (s : List Char) :
    lines (line ++ '\n' :: s) = dropReturn line :: lines s := by
  rw [lines_append_feed, List.splitOn_eq_singleton h]
  rfl

theorem dropReturn_of_ne {line : List Char} (h : line.getLast? ≠ some '\r') :
    dropReturn line = line := if_neg h

@[simp] theorem dropReturn_concat (line : List Char) : dropReturn (line ++ ['\r']) = line := by
  simp [dropReturn]

/-- **A text is made of its lines**, and of no others. -/
theorem isLinesOf_iff {ls : List (List Char)} {s : List Char} : IsLinesOf ls s ↔ ls = lines s := by
  constructor
  · intro h
    induction h with
    | nil => exact lines_nil.symm
    | last hfeed hne => exact (lines_of_no_feed hfeed hne).symm
    | feed hfeed hreturn _ ih =>
      rw [lines_append_feed_of_no_feed hfeed, dropReturn_of_ne hreturn, ih]
    | @returnFeed line s ls hfeed _ ih =>
      have hconcat : '\n' ∉ line ++ ['\r'] := by simp [hfeed]
      have hline := lines_append_feed_of_no_feed hconcat s
      rw [dropReturn_concat, List.append_assoc] at hline
      exact ih ▸ hline.symm
  · rintro rfl
    induction s using feedInduction with
    | last line hfeed =>
      by_cases hne : line = []
      · rw [hne, lines_nil]
        exact .nil
      · rw [lines_of_no_feed hfeed hne]
        exact .last hfeed hne
    | feed line s hfeed ih =>
      rw [lines_append_feed_of_no_feed hfeed]
      by_cases hreturn : line.getLast? = some '\r'
      · obtain ⟨line, rfl⟩ := List.getLast?_eq_some_iff.mp hreturn
        rw [dropReturn_concat, List.append_assoc]
        exact .returnFeed (fun h => hfeed (List.mem_append_left _ h)) ih
      · rw [dropReturn_of_ne hreturn]
        exact .feed hfeed hreturn ih

theorem IsLinesOf.no_feed {ls : List (List Char)} {s : List Char} (h : IsLinesOf ls s) :
    ∀ line ∈ ls, '\n' ∉ line := by
  induction h with
  | nil => nofun
  | last hfeed _ => exact List.forall_mem_singleton.mpr hfeed
  | feed hfeed _ _ ih => exact List.forall_mem_cons.mpr ⟨hfeed, ih⟩
  | returnFeed hfeed _ ih => exact List.forall_mem_cons.mpr ⟨hfeed, ih⟩

/-- A line of a text has no line feed in it. -/
theorem no_feed_of_mem_lines {s line : List Char} (h : line ∈ lines s) : '\n' ∉ line :=
  (isLinesOf_iff.mpr rfl).no_feed line h

/-! ## Numbers -/

/-- The lines of a text that are not blank, in order and with their numbers. The first line of the
text has number 1, and every line counts. -/
structure AreWrittenLinesOf (numbered : List (List Char × Nat)) (s : List Char) : Prop where
  increasing : numbered.Pairwise fun line later => line.2 < later.2
  mem_iff : ∃ ls, IsLinesOf ls s ∧ ∀ line number, (line, number) ∈ numbered ↔
    1 ≤ number ∧ ls[number - 1]? = some line ∧ ¬ allBlank line

theorem areWrittenLinesOf_writtenLines (s : List Char) : AreWrittenLinesOf (writtenLines s) s where
  increasing := by
    have hnumbers : ((lines s).zipIdx 1).Pairwise fun line later => line.2 < later.2 := by
      rw [← List.pairwise_map (f := Prod.snd) (R := (· < ·)), List.zipIdx_map_snd]
      exact List.pairwise_lt_range'
    exact hnumbers.filter _
  mem_iff := by
    refine ⟨lines s, isLinesOf_iff.mpr rfl, fun line number => ?_⟩
    rw [writtenLines, List.mem_filter, List.mk_mem_zipIdx_iff_le_and_getElem?_sub]
    simp [and_assoc]

/-- The written lines of a text have their numbers in one way. -/
theorem areWrittenLinesOf_iff {numbered : List (List Char × Nat)} {s : List Char} :
    AreWrittenLinesOf numbered s ↔ numbered = writtenLines s := by
  constructor
  · rintro ⟨hincreasing, ls, hls, hmem⟩
    obtain ⟨hincreasing', ls', hls', hmem'⟩ := areWrittenLinesOf_writtenLines s
    obtain rfl : ls = ls' := (isLinesOf_iff.mp hls).trans (isLinesOf_iff.mp hls').symm
    have : Std.Irrefl fun line later : List Char × Nat => line.2 < later.2 :=
      ⟨fun line => Nat.lt_irrefl line.2⟩
    exact hincreasing.eq_of_mem_iff hincreasing' fun (line, number) =>
      (hmem line number).trans (hmem' line number).symm
  · rintro rfl
    exact areWrittenLinesOf_writtenLines s

/-! ## Trimmed lines -/

/-- The written lines of a text less the blanks at their ends. -/
def trimmedLines (s : List Char) : List (List Char) :=
  (writtenLines s).map fun (line, _) => trimEnd line

theorem trimEnd_dropReturn (line : List Char) : trimEnd (dropReturn line) = trimEnd line := by
  by_cases hreturn : line.getLast? = some '\r'
  · obtain ⟨line, rfl⟩ := List.getLast?_eq_some_iff.mp hreturn
    rw [dropReturn_concat, trimEnd_append_of_allBlank line ['\r'] (by decide)]
  · rw [dropReturn_of_ne hreturn]

theorem map_fst_writtenLines (s : List Char) :
    (writtenLines s).map Prod.fst = (lines s).filter fun line => !allBlank line := by
  have hfilter : writtenLines s =
      ((lines s).zipIdx 1).filter ((fun line => !allBlank line) ∘ Prod.fst) := rfl
  rw [hfilter, ← List.filter_map, List.zipIdx_map_fst]

theorem trimmedLines_eq_lines (s : List Char) :
    trimmedLines s = ((lines s).map trimEnd).filter fun line => !line.isEmpty := by
  have hblank : (fun line => !allBlank line) = (fun line => !line.isEmpty) ∘ trimEnd := by
    funext line
    rw [Function.comp_apply, Bool.eq_iff_iff]
    simp [trimEnd_eq_nil_iff]
  have hmap : trimmedLines s = ((writtenLines s).map Prod.fst).map trimEnd := List.map_map.symm
  rw [hmap, map_fst_writtenLines, hblank, List.filter_map]

/-- Neither the ending of a line nor an empty line makes a difference after trimming. -/
theorem trimmedLines_eq (s : List Char) :
    trimmedLines s = ((s.splitOn '\n').map trimEnd).filter fun line => !line.isEmpty := by
  rw [trimmedLines_eq_lines]
  induction s using feedInduction with
  | last line hfeed =>
    by_cases hne : line = []
    · subst hne
      simp
    · rw [lines_of_no_feed hfeed hne, List.splitOn_eq_singleton hfeed]
  | feed line s hfeed ih =>
    rw [lines_append_feed_of_no_feed hfeed, List.splitOn_append_cons_self_of_not_mem hfeed,
      List.map_cons, List.map_cons, trimEnd_dropReturn, List.filter_cons, List.filter_cons, ih]

@[simp] theorem trimmedLines_nil : trimmedLines [] = [] := by simp [trimmedLines_eq]

theorem trimmedLines_of_no_feed {line : List Char} (h : '\n' ∉ line) :
    trimmedLines line = if trimEnd line = [] then [] else [trimEnd line] := by
  rw [trimmedLines_eq, List.splitOn_eq_singleton h]
  by_cases hblank : trimEnd line = [] <;> simp [hblank]

theorem trimmedLines_append_feed (s t : List Char) :
    trimmedLines (s ++ '\n' :: t) = trimmedLines s ++ trimmedLines t := by
  simp only [trimmedLines_eq, List.splitOn_append_cons_self, List.map_append, List.filter_append]

/-- One blank at the end, which ends a line or belongs to one. -/
theorem trimmedLines_concat (s : List Char) {c : Char} (hc : isBlank c) :
    trimmedLines (s ++ [c]) = trimmedLines s := by
  by_cases hfeed : c = '\n'
  · rw [hfeed, trimmedLines_append_feed, trimmedLines_nil, List.append_nil]
  · induction s using feedInduction with
    | last line hline =>
      have hconcat : '\n' ∉ line ++ [c] := by simp [hline, Ne.symm hfeed]
      have htrim : trimEnd (line ++ [c]) = trimEnd line :=
        trimEnd_append_of_allBlank line [c] (by simp [allBlank, hc])
      rw [trimmedLines_of_no_feed hconcat, trimmedLines_of_no_feed hline, htrim]
    | feed line s _ ih =>
      rw [List.append_assoc, List.cons_append, trimmedLines_append_feed, ih,
        trimmedLines_append_feed]

theorem trimmedLines_append_blanks (s : List Char) {blanks : List Char} (h : allBlank blanks) :
    trimmedLines (s ++ blanks) = trimmedLines s := by
  induction blanks generalizing s with
  | nil => rw [List.append_nil]
  | cons c blanks ih =>
    obtain ⟨hc, hblanks⟩ : isBlank c ∧ allBlank blanks := by simpa using h
    rw [List.append_cons, ih (s ++ [c]) hblanks, trimmedLines_concat s hc]

theorem trimmedLines_of_allBlank {blanks : List Char} (h : allBlank blanks) :
    trimmedLines blanks = [] :=
  (trimmedLines_append_blanks [] h).trans trimmedLines_nil

/-! ## Respacing -/

/-- A text with blanks added at the ends of lines, and with blank lines added. -/
inductive Respaced : List Char → List Char → Prop where
  | atEnd (s : List Char) {blanks : List Char} (hblanks : allBlank blanks) :
      Respaced s (s ++ blanks)
  | atFeed (line : List Char) {blanks s t : List Char} (hblanks : allBlank blanks)
      (h : Respaced s t) : Respaced (line ++ '\n' :: s) (line ++ blanks ++ '\n' :: t)
  | blankLine {blanks s t : List Char} (hblanks : allBlank blanks) (h : Respaced s t) :
      Respaced s (blanks ++ '\n' :: t)

theorem Respaced.refl (s : List Char) : Respaced s s := by
  simpa using Respaced.atEnd s (rfl : allBlank [])

/-- **Respacing does not change the trimmed lines.** -/
theorem Respaced.trimmedLines_eq {s t : List Char} (h : Respaced s t) :
    trimmedLines t = trimmedLines s := by
  induction h with
  | atEnd s hblanks => exact trimmedLines_append_blanks s hblanks
  | atFeed line hblanks _ ih =>
    rw [trimmedLines_append_feed, trimmedLines_append_blanks line hblanks, ih,
      trimmedLines_append_feed]
  | blankLine hblanks _ ih =>
    rw [trimmedLines_append_feed, trimmedLines_of_allBlank hblanks, List.nil_append, ih]

/-- A text with a carriage return in front of every line feed. -/
def withReturns (s : List Char) : List Char :=
  s.flatMap fun c => if c = '\n' then ['\r', '\n'] else [c]

theorem withReturns_of_no_feed {s : List Char} (h : '\n' ∉ s) : withReturns s = s := by
  induction s with
  | nil => rfl
  | cons c s ih =>
    obtain ⟨hc, hs⟩ : ¬ '\n' = c ∧ '\n' ∉ s := by simpa using h
    rw [withReturns, List.flatMap_cons, if_neg (Ne.symm hc), ← withReturns, ih hs]
    rfl

/-- A carriage return in an ending is a blank at the end of a line. -/
theorem respaced_withReturns (s : List Char) : Respaced s (withReturns s) := by
  induction s using feedInduction with
  | last line hfeed =>
    rw [withReturns_of_no_feed hfeed]
    exact .refl line
  | feed line s hfeed ih =>
    have hreturns : withReturns (line ++ '\n' :: s) = line ++ ['\r'] ++ '\n' :: withReturns s := by
      rw [withReturns, List.flatMap_append, ← withReturns, withReturns_of_no_feed hfeed]
      simp [withReturns]
    rw [hreturns]
    exact .atFeed line (by decide) ih

/-! ## Texts made of lines -/

/-- A line that stands in a text as it is: it has no line feed in it and does not end in a blank. -/
structure IsWritten (line : List Char) : Prop where
  no_feed : '\n' ∉ line
  ends : ∃ s c, line = s ++ [c] ∧ isBlank c = false

theorem IsWritten.trimEnd_eq {line : List Char} (h : IsWritten line) : trimEnd line = line := by
  obtain ⟨s, c, rfl, hc⟩ := h.ends
  exact trimEnd_concat s hc

theorem IsWritten.ne_nil {line : List Char} (h : IsWritten line) : line ≠ [] := by
  obtain ⟨s, c, rfl, -⟩ := h.ends
  exact List.concat_ne_nil c s

theorem IsWritten.trimmedLines_eq {line : List Char} (h : IsWritten line) :
    trimmedLines line = [line] := by
  rw [trimmedLines_of_no_feed h.no_feed, h.trimEnd_eq, if_neg h.ne_nil]

theorem trimmedLines_ofLines {ls : List (List Char)} (h : ∀ line ∈ ls, IsWritten line) :
    trimmedLines (ofLines ls) = ls := by
  induction ls with
  | nil => rw [ofLines_nil, trimmedLines_nil]
  | cons line ls ih =>
    obtain ⟨hline, hls⟩ := List.forall_mem_cons.mp h
    rw [ofLines_cons, trimmedLines_append_feed, hline.trimmedLines_eq, ih hls,
      List.singleton_append]

/-- Lines are written in a text: each is ended in its own way, and there may be blanks at the ends
of lines and blank lines between them. -/
def LaysOut (ls : List (List Char)) (text : List Char) : Prop :=
  Respaced (['\n'].intercalate ls) text

theorem LaysOut.trimmedLines_eq {ls : List (List Char)} {text : List Char} (h : LaysOut ls text)
    (hwritten : ∀ line ∈ ls, IsWritten line) : trimmedLines text = ls := by
  rw [Respaced.trimmedLines_eq h]
  by_cases hne : ls = []
  · subst hne
    simp
  · have htrim : ls.map trimEnd = ls :=
      (List.map_congr_left fun line hline => (hwritten line hline).trimEnd_eq).trans ls.map_id
    rw [Text.trimmedLines_eq,
      List.splitOn_intercalate '\n' (fun line hline => (hwritten line hline).no_feed) hne, htrim,
      List.filter_eq_self]
    intro line hline
    simpa using (hwritten line hline).ne_nil

/-! ## Cutting -/

/-- A text that is cut off within its first written line has no other, and a text that is cut off
later has this line in full. -/
theorem trimmedLines_of_append {s t first : List Char} {rest : List (List Char)}
    (h : trimmedLines (s ++ t) = first :: rest) :
    (trimmedLines s).length ≤ 1 ∨ ∃ rest', trimmedLines s = first :: rest' := by
  induction s using feedInduction with
  | last line hfeed =>
    left
    rw [trimmedLines_of_no_feed hfeed]
    split <;> simp
  | feed line s _ ih =>
    rw [List.append_assoc, List.cons_append, trimmedLines_append_feed] at h
    rw [trimmedLines_append_feed]
    cases hline : trimmedLines line with
    | nil =>
      rw [hline, List.nil_append] at h
      exact ih h
    | cons first' rest' =>
      rw [hline, List.cons_append] at h
      obtain ⟨rfl, -⟩ := List.cons.inj h
      exact .inr ⟨rest' ++ trimmedLines s, rfl⟩

theorem count_trimEnd {c : Char} (hc : isBlank c = false) (s : List Char) :
    (trimEnd s).count c = s.count c := by
  obtain ⟨blanks, hs, hblanks⟩ := eq_trimEnd_append s
  have hcount : blanks.count c = 0 := by
    refine List.count_eq_zero.mpr fun hmem => ?_
    have hblank : ∀ b ∈ blanks, isBlank b := by simpa [allBlank] using hblanks
    simp [hblank c hmem] at hc
  conv_rhs => rw [hs, List.count_append, hcount, Nat.add_zero]

theorem flatten_trimmedLines_of_no_feed {line : List Char} (h : '\n' ∉ line) :
    (trimmedLines line).flatten = trimEnd line := by
  rw [trimmedLines_of_no_feed h]
  by_cases hnil : trimEnd line = [] <;> simp [hnil]

/-- Trimming lines takes away nothing but blanks. -/
theorem count_flatten_trimmedLines {c : Char} (hc : isBlank c = false) (s : List Char) :
    (trimmedLines s).flatten.count c = s.count c := by
  induction s using feedInduction with
  | last line hfeed => rw [flatten_trimmedLines_of_no_feed hfeed, count_trimEnd hc]
  | feed line s hfeed ih =>
    have hne : '\n' ≠ c := by
      rintro rfl
      exact absurd hc (by decide)
    rw [trimmedLines_append_feed, List.flatten_append, List.count_append,
      flatten_trimmedLines_of_no_feed hfeed, count_trimEnd hc, ih, List.count_append,
      List.count_cons_of_ne hne]

end RackTraffic.Text
