import RackTraffic.Proofs.Lists
import RackTraffic.Proofs.Result.Written

/-!
# Truncated results

**Theorem (`RunResult.ofText_truncated`).** If a text in which a result is written is cut off before
its last closing bracket, it is not read as a result.

The proof counts closing brackets. There is one in each of the fifteen application lines, and the
text of a number has none. A text that is read has fifteen lines with a bracket each after its
header (`HasParts.count_le_of_ofText`), and one bracket at least is cut off. So the text that was
cut off would have too few, if the bracket in a header could not make up for one that is lost. It
cannot, since a text with several lines left still has the header that was written
(`ResultText.exists_hasParts_of_append`).
-/

namespace RackTraffic

open Text

/-- A character that is in every text is in all of them at least as often as there are texts. -/
theorem length_le_count_flatten {c : Char} {ls : List (List Char)} (h : ∀ line ∈ ls, c ∈ line) :
    ls.length ≤ ls.flatten.count c := by
  induction ls with
  | nil => exact Nat.le_refl 0
  | cons line ls ih =>
    obtain ⟨hline, hls⟩ := List.forall_mem_cons.mp h
    have hone : 0 < line.count c := List.count_pos_iff.mpr hline
    have hrest := ih hls
    rw [List.flatten_cons, List.count_append, List.length_cons]
    omega

theorem ResultText.count_applications (applications : List ApplicationText) :
    (applications.map ApplicationText.line).flatten.count ']' = applications.length := by
  induction applications with
  | nil => rfl
  | cons app applications ih =>
    rw [List.map_cons, List.flatten_cons, List.count_append, ih, app.count_line, List.length_cons,
      Nat.add_comm]

/-- An application line that is read has a closing bracket. -/
theorem Application.Reads.mem_trimEnd {line : List Char} {application : Application}
    (h : Application.Reads line (.ok application)) : ']' ∈ trimEnd line := by
  cases h with
  | spelled hinner _ _ _ =>
    obtain ⟨before, after, rfl, -, -⟩ := hinner
    rw [← List.count_pos_iff, count_trimEnd (by decide), List.count_pos_iff]
    simp

/-- The application lines of a result that is read have a bracket each. -/
theorem HasParts.count_le_of_ofText {text : String} {header : Option (List Char × Nat)}
    {body : List (List Char × Nat)} {result : RunResult}
    (hparts : HasParts (writtenLines text.toList) header body)
    (h : RunResult.ofText text = .ok result) :
    body.length = applicationCount ∧
      applicationCount ≤ (body.map fun line => trimEnd line.1).flatten.count ']' := by
  obtain ⟨-, hread, hcount⟩ := hparts.ofText_eq_ok_iff.mp h
  cases hread with
  | all hread =>
    have hlength : body.length = applicationCount := hread.length_eq.trans hcount
    have hclosed : ∀ line ∈ body, ']' ∈ trimEnd line.1 := by
      intro line hline
      obtain ⟨app, -, hread⟩ := exists_mem_of_forall₂ hread.flip hline
      exact Application.Reads.mem_trimEnd hread
    have hcount := length_le_count_flatten
      (List.forall_mem_map.mpr hclosed : ∀ line ∈ body.map fun line => trimEnd line.1, ']' ∈ line)
    rw [List.length_map, hlength] at hcount
    exact ⟨hlength, hcount⟩

theorem HasParts.trimmedLines_eq {s : List Char} {header : Option (List Char × Nat)}
    {body : List (List Char × Nat)} (h : HasParts (writtenLines s) header body) :
    trimmedLines s =
      (header.map fun line => trimEnd line.1).toList ++ body.map fun line => trimEnd line.1 := by
  have happend : writtenLines s = header.toList ++ body := by
    generalize writtenLines s = numbered at h
    cases h <;> rfl
  rw [trimmedLines, happend, List.map_append]
  cases header <;> rfl

namespace ResultText

variable (written : ResultText) {p q : List Char}

theorem count_lines : written.lines.flatten.count ']' =
    (written.header.map HeaderText.line).toList.flatten.count ']' + applicationCount := by
  rw [lines, List.flatten_append, List.count_append, count_applications, written.isComplete]

/-- If a result is cut off, its header keeps all its brackets, or there is one line at most. -/
theorem exists_hasParts_of_append (h : trimmedLines (p ++ q) = written.lines) :
    ∃ header body, HasParts (writtenLines p) header body ∧ (body.length ≤ 1 ∨
      (written.header.map HeaderText.line).toList.flatten.count ']' ≤
        (header.map fun line => trimEnd line.1).toList.flatten.count ']') := by
  cases hheader : written.header with
  | none =>
    obtain ⟨header, body, hparts⟩ := exists_hasParts (writtenLines p)
    exact ⟨header, body, hparts, .inr (Nat.zero_le _)⟩
  | some header =>
    rw [lines, hheader] at h
    rcases trimmedLines_of_append h with hone | ⟨rest, hrest⟩
    · obtain ⟨header, body, hparts⟩ := exists_hasParts (writtenLines p)
      rw [hparts.trimmedLines_eq, List.length_append, List.length_map] at hone
      exact ⟨header, body, hparts, .inl (by omega)⟩
    · obtain ⟨line, number, body, hparts, hline, -⟩ := hasParts_of_header hrest
      refine ⟨some (line, number), body, hparts, .inr ?_⟩
      rw [Option.map_some, Option.map_some, hline]

end ResultText

/-- **A truncated result is not read.** A text in which a result is written is cut off before its
last closing bracket. -/
theorem RunResult.ofText_truncated (written : ResultText) {p q : String}
    (h : LaysOut written.lines (p ++ q).toList) (hclose : ']' ∈ q.toList) :
    ∃ fault, ofText p = .error fault := by
  refine exists_eq_error_iff.mpr fun ⟨result, hread⟩ => ?_
  rw [String.toList_append] at h
  have hlines := h.trimmedLines_eq written.isWritten_lines
  obtain ⟨header, body, hparts, hcut⟩ := written.exists_hasParts_of_append hlines
  obtain ⟨hlength, hbody⟩ := hparts.count_le_of_ofText hread
  have hkept := count_flatten_trimmedLines (c := ']') (by decide) p.toList
  rw [hparts.trimmedLines_eq, List.flatten_append, List.count_append] at hkept
  have hall := count_flatten_trimmedLines (c := ']') (by decide) (p.toList ++ q.toList)
  rw [hlines, written.count_lines, List.count_append] at hall
  have hlost : 0 < q.toList.count ']' := List.count_pos_iff.mpr hclose
  have hfifteen : applicationCount = 15 := rfl
  omega

/-- Cut off in an application line, the result that the simulator prints is not read. -/
theorem RunResult.ofText_truncated_printed :
    ']' ∈ printedText.drop 200 ∧
      ∃ fault, ofText (String.ofList (printedText.take 200)) = .error fault := by
  have hclose : ']' ∈ printedText.drop 200 := by decide +kernel
  refine ⟨hclose, ofText_truncated printedResult (q := String.ofList (printedText.drop 200)) ?_ ?_⟩
  · rw [← String.ofList_append, String.toList_ofList, List.take_append_drop]
    exact .refl _
  · rwa [String.toList_ofList]

end RackTraffic
