import RackTraffic.Proofs.Fallible
import RackTraffic.Proofs.Text.Lines
import RackTraffic.Traffic.Log

/-!
# The written lines decide what is read

A log is read from the lines of its text that are not blank, each with its number (`LinesRead`):
either all of them can be read, and then the records are theirs, in order; or the first that cannot
is reported, with its number.

What is read from a line does not depend on the blanks at its end. So the records of a text, and the
fault that is found in it, are those of its trimmed lines (`mapError_readRecords`); only the number
of the line that has the fault is lost on the way. Hence respacing changes no records.

Main result: `logs_read_writtenLines`.
-/

namespace RackTraffic

open Text

/-! ## Numbered lines -/

/-- How numbered lines are read, if `reads` says how a line is read: all of them, or up to the first
that has a fault. -/
inductive LinesRead {α : Type} (reads : List Char → Except Malformed α → Prop) :
    List (List Char × Nat) → Except Malformed (List α) → Prop where
  | all {numbered : List (List Char × Nat)} {records : List α}
      (h : List.Forall₂ (fun line record => reads line.1 (.ok record)) numbered records) :
      LinesRead reads numbered (.ok records)
  | first {before after : List (List Char × Nat)} {line : List Char} {number : Nat}
      {fault : Malformed} (hbefore : ∀ earlier ∈ before, ∃ record, reads earlier.1 (.ok record))
      (hline : reads line (.error fault)) :
      LinesRead reads (before ++ (line, number) :: after) (.error (.atLine number fault))

section

variable {α : Type} {read : List Char → Except Malformed α}
  {reads : List Char → Except Malformed α → Prop} {numbered : List (List Char × Nat)}
  {records : List α} {r : Except Malformed (List α)}

theorem readLines_eq_mapM (numbered : List (List Char × Nat)) :
    readLines read numbered =
      numbered.mapM fun line => (read line.1).mapError (.atLine line.2) := by
  induction numbered with
  | nil => rfl
  | cons line numbered ih => rw [readLines, ih, List.mapM_cons]

/-- Lines are read if each of them is, in order. -/
theorem readLines_eq_ok_iff : readLines read numbered = .ok records ↔
    List.Forall₂ (fun line record => read line.1 = .ok record) numbered records := by
  simp only [readLines_eq_mapM, mapM_eq_ok_iff, mapError_eq_ok]

/-- Otherwise the first line that is not read is reported. -/
theorem readLines_eq_error_iff {fault : Malformed} : readLines read numbered = .error fault ↔
    ∃ before line number after cause, numbered = before ++ (line, number) :: after ∧
      (∀ earlier ∈ before, ∃ record, read earlier.1 = .ok record) ∧ read line = .error cause ∧
      fault = .atLine number cause := by
  simp only [readLines_eq_mapM, mapM_eq_error_iff, mapError_eq_ok, mapError_eq_error]
  constructor
  · rintro ⟨before, ⟨line, number⟩, after, hnumbered, hbefore, cause, hline, rfl⟩
    exact ⟨before, line, number, after, cause, hnumbered, hbefore, hline, rfl⟩
  · rintro ⟨before, line, number, after, cause, hnumbered, hbefore, hline, rfl⟩
    exact ⟨before, (line, number), after, hnumbered, hbefore, cause, hline, rfl⟩

theorem readLines_eq_iff (h : ∀ line answer, read line = answer ↔ reads line answer) :
    readLines read numbered = r ↔ LinesRead reads numbered r := by
  cases r with
  | ok records =>
    rw [readLines_eq_ok_iff]
    simp only [h]
    exact ⟨.all, fun hread => by cases hread; assumption⟩
  | error fault =>
    rw [readLines_eq_error_iff]
    simp only [h]
    constructor
    · rintro ⟨before, line, number, after, cause, rfl, hbefore, hline, rfl⟩
      exact .first hbefore hline
    · intro hread
      cases hread with
      | first hbefore hline => exact ⟨_, _, _, _, _, rfl, hbefore, hline, rfl⟩

theorem map_readRecords_eq_iff {β : Type} {text : String} {f : List α → β}
    {answer : Except Malformed β} :
    (readRecords read text).map f = answer ↔ ∃ numbered found,
      AreWrittenLinesOf numbered text.toList ∧ LinesRead (read · = ·) numbered found ∧
        answer = found.map f := by
  simp only [areWrittenLinesOf_iff, ← readLines_eq_iff fun _ _ => Iff.rfl]
  constructor
  · rintro rfl
    exact ⟨_, _, rfl, rfl, rfl⟩
  · rintro ⟨_, _, rfl, rfl, rfl⟩
    rfl

/-! ## Respaced texts -/

/-- What is read from a text, apart from the number of a line, is read from its trimmed lines. -/
theorem mapError_readRecords (htrim : ∀ line, read (trimEnd line) = read line) (text : String) :
    (readRecords read text).mapError Malformed.cause? =
      (trimmedLines text.toList).mapM fun line => (read line).mapError some := by
  rw [readRecords, readLines_eq_mapM, mapError_mapM, trimmedLines, List.mapM_map]
  refine mapM_congr fun line _ => ?_
  rw [mapError_mapError, Function.comp_apply, htrim]
  rfl

/-- The records of a text are read from its trimmed lines. -/
theorem readRecords_eq_ok_iff (htrim : ∀ line, read (trimEnd line) = read line) {text : String} :
    readRecords read text = .ok records ↔
      List.Forall₂ (fun line record => read line = .ok record) (trimmedLines text.toList)
        records := by
  rw [readRecords, readLines_eq_ok_iff, trimmedLines, List.forall₂_map_left_iff]
  simp only [htrim]

theorem mapError_readRecords_respaced (htrim : ∀ line, read (trimEnd line) = read line)
    {text text' : String} (h : Respaced text.toList text'.toList) :
    (readRecords read text').mapError Malformed.cause? =
      (readRecords read text).mapError Malformed.cause? := by
  rw [mapError_readRecords htrim, mapError_readRecords htrim, h.trimmedLines_eq]

end

/-! ## Logs -/

theorem lineFields_trimEnd (line : List Char) : lineFields (trimEnd line) = lineFields line := by
  rw [lineFields, trimEnd_trimEnd, lineFields]

theorem Flow.ofLine_trimEnd (line : List Char) : ofLine (trimEnd line) = ofLine line := by
  simp only [ofLine, lineFields_trimEnd]

theorem AllocatedFlow.ofLine_trimEnd (line : List Char) : ofLine (trimEnd line) = ofLine line := by
  simp only [ofLine, lineFields_trimEnd]

theorem FlowLog.ofText_eq_map (scenario : ScenarioId) (text : String) :
    ofText scenario text = (readRecords Flow.ofLine text).map (mk scenario) := by
  rw [ofText]
  cases readRecords Flow.ofLine text <;> rfl

theorem AllocationLog.ofText_eq_map (scenario : ScenarioId) (variant : VariantId) (text : String) :
    ofText scenario variant text =
      (readRecords AllocatedFlow.ofLine text).map (mk scenario variant) := by
  rw [ofText]
  cases readRecords AllocatedFlow.ofLine text <;> rfl

/-- **The written lines decide what is read.** A log is read from a text if each line of it that is
not blank can be read, and then it has their records in order; otherwise the first that cannot be
read is reported with its number. If a text is respaced, the same records are read from it, or the
same fault is found in a line; and ending all lines by carriage returns and line feeds is a way of
respacing. -/
theorem logs_read_writtenLines (text : String) :
    (∀ scenario r, FlowLog.ofText scenario text = r ↔
      ∃ numbered found, AreWrittenLinesOf numbered text.toList ∧
        LinesRead (Flow.ofLine · = ·) numbered found ∧ r = found.map (FlowLog.mk scenario)) ∧
    (∀ scenario variant r, AllocationLog.ofText scenario variant text = r ↔
      ∃ numbered found, AreWrittenLinesOf numbered text.toList ∧
        LinesRead (AllocatedFlow.ofLine · = ·) numbered found ∧
        r = found.map (AllocationLog.mk scenario variant)) ∧
    Respaced text.toList (withReturns text.toList) ∧
    ∀ text' : String, Respaced text.toList text'.toList →
      (∀ scenario, (FlowLog.ofText scenario text').mapError Malformed.cause? =
        (FlowLog.ofText scenario text).mapError Malformed.cause?) ∧
      ∀ scenario variant, (AllocationLog.ofText scenario variant text').mapError Malformed.cause? =
        (AllocationLog.ofText scenario variant text).mapError Malformed.cause? := by
  refine ⟨fun scenario r => ?_, fun scenario variant r => ?_, respaced_withReturns _,
    fun text' h => ⟨fun scenario => ?_, fun scenario variant => ?_⟩⟩
  · rw [FlowLog.ofText_eq_map, map_readRecords_eq_iff]
  · rw [AllocationLog.ofText_eq_map, map_readRecords_eq_iff]
  · rw [FlowLog.ofText_eq_map, FlowLog.ofText_eq_map, mapError_map, mapError_map,
      mapError_readRecords_respaced Flow.ofLine_trimEnd h]
  · rw [AllocationLog.ofText_eq_map, AllocationLog.ofText_eq_map, mapError_map, mapError_map,
      mapError_readRecords_respaced AllocatedFlow.ofLine_trimEnd h]

/-- A text with a line that is too short. -/
def shortLine : String := "0 0 1 x 5 1Gbps\n0 1 2\n"

/-- A fault stays the same when a blank line is put in front of the text and carriage returns are
put in front of the line feeds. -/
theorem logs_read_writtenLines_returns :
    Respaced shortLine.toList ('\n' :: withReturns shortLine.toList) ∧
    (FlowLog.ofText ⟨3⟩ (String.ofList ('\n' :: withReturns shortLine.toList))).mapError
      Malformed.cause? = .error (some (.tooFewFields 6 3)) := by
  have hspaced : Respaced shortLine.toList ('\n' :: withReturns shortLine.toList) :=
    .blankLine (rfl : allBlank []) (respaced_withReturns _)
  have hread : FlowLog.ofText ⟨3⟩ shortLine = .error (.atLine 2 (.tooFewFields 6 3)) := by
    decide +kernel
  obtain ⟨-, -, -, hsame⟩ := logs_read_writtenLines shortLine
  refine ⟨hspaced, ?_⟩
  rw [(hsame _ (by rwa [String.toList_ofList])).1 ⟨3⟩, hread]
  rfl

end RackTraffic
