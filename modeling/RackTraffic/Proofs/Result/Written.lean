import RackTraffic.Proofs.Result.Grammar

/-!
# Results as they are written

A result in its usual form (`ResultText`) has a line for each of fifteen applications, and a header,
in one of two forms, or none. The numbers in it are any texts that are read as floats.

**Theorem (`RunResult.ofText_written`).** From a text in which these lines are written, their values
are read, whichever form the header has.

The keys of a header are looked for anywhere in it. Each has a capital letter that nothing before it
has, since no number has one of them; so it is found where it was written (`followsFirst_mark`).
-/

namespace RackTraffic

open Text

/-! ## The texts of floats -/

/-- A text that is read as a float. -/
structure FloatText where
  text : List Char
  isRead : (Decimal.readFloat? text).isSome

namespace FloatText

variable (number : FloatText)

/-- The float that is read from the text. -/
def value : Float := (Decimal.readFloat? number.text).get number.isRead

theorem readFloat?_text : Decimal.readFloat? number.text = some number.value :=
  (Option.some_get number.isRead).symm

theorem isFloatChar {c : Char} (hc : c ∈ number.text) : Decimal.IsFloatChar c :=
  Decimal.isFloatChar_of_readFloat? number.readFloat?_text hc

theorem ne_nil : number.text ≠ [] := Decimal.ne_nil_of_readFloat? number.readFloat?_text

theorem isBlank_eq : ∀ c ∈ number.text, isBlank c = false := fun _ hc =>
  (number.isFloatChar hc).isBlank_eq

theorem exists_concat : ∃ s c, number.text = s ++ [c] ∧ isBlank c = false := by
  obtain hnil | ⟨s, c, hconcat⟩ := List.eq_nil_or_concat' number.text
  · exact absurd hnil number.ne_nil
  · exact ⟨s, c, hconcat, number.isBlank_eq c (by simp [hconcat])⟩

theorem notMem {c : Char} (h : ¬ Decimal.IsFloatChar c) : c ∉ number.text :=
  fun hc => h (number.isFloatChar hc)

end FloatText

/-! ## Application lines -/

/-- An application line in its usual form, `[index: throughput latency]`. -/
structure ApplicationText where
  index : UInt64
  throughput : FloatText
  latency : FloatText

namespace ApplicationText

variable (app : ApplicationText)

/-- What stands in the brackets. -/
def inner : List Char :=
  Integer.ofUInt64 app.index ++ [':'] ++ ' ' :: (app.throughput.text ++ ' ' :: app.latency.text)

/-- The line. -/
def line : List Char := '[' :: (app.inner ++ [']'])

/-- The values of the line. -/
def application : Application :=
  ⟨app.index, app.throughput.value, app.latency.value⟩

theorem areWordsOf_inner : AreWordsOf
    [Integer.ofUInt64 app.index ++ [':'], app.throughput.text, app.latency.text] app.inner := by
  have hindex : ∀ c ∈ Integer.ofUInt64 app.index ++ [':'], isBlank c = false := by
    intro c hc
    rcases List.mem_append.mp hc with hc | hc
    · exact isBlank_of_isDigit (Integer.isDigit_of_mem_ofUInt64 hc)
    · rw [List.mem_singleton.mp hc]
      decide
  refine .cons (rfl : allBlank []) (List.concat_ne_nil _ _) hindex (by decide) ?_
  refine .cons (rfl : allBlank []) app.throughput.ne_nil app.throughput.isBlank_eq (by decide) ?_
  exact .last (rfl : allBlank []) app.latency.ne_nil app.latency.isBlank_eq

theorem isLessColons_index :
    IsLessColons (Integer.ofUInt64 app.index) (Integer.ofUInt64 app.index ++ [':']) := by
  refine ⟨⟨1, rfl⟩, fun hlast => ?_⟩
  exact notMem_ofUInt64 (by decide) _ (List.mem_of_getLast? hlast)

/-- A line is read, whatever blanks follow it. -/
theorem reads_line {blanks : List Char} (h : allBlank blanks) :
    Application.Reads (app.line ++ blanks) (.ok app.application) := by
  have hinner : IsBracketed app.inner (app.line ++ blanks) :=
    ⟨[], blanks, by simp [line], rfl, h⟩
  refine .spelled hinner app.areWordsOf_inner app.isLessColons_index ?_
  exact ⟨Integer.readUInt64_eq_ok_iff.mp (Integer.readUInt64_ofUInt64 _),
    app.throughput.readFloat?_text, app.latency.readFloat?_text⟩

theorem notMem_inner {c : Char} (hnumber : ¬ Decimal.IsFloatChar c) (hc : c ∉ [':', ' ']) :
    c ∉ app.inner := by
  have hindex : c ∉ Integer.ofUInt64 app.index := fun hmem =>
    hnumber (.inl (Integer.isDigit_of_mem_ofUInt64 hmem))
  simp_all [inner, FloatText.notMem]

theorem isWritten_line : IsWritten app.line where
  no_feed := by simp [line, app.notMem_inner (c := '\n') (by decide) (by decide)]
  ends := ⟨'[' :: app.inner, ']', rfl, by decide⟩

theorem count_line : app.line.count ']' = 1 := by
  have hinner := List.count_eq_zero.mpr (app.notMem_inner (c := ']') (by decide) (by decide))
  simp [line, hinner]

end ApplicationText

/-! ## Headers -/

/-- A key is found where it was written if it has a character that nothing before it has. -/
theorem followsFirst_mark {before start finish after : List Char} {mark : Char}
    (h : mark ∉ before ++ start) :
    FollowsFirst (start ++ mark :: finish) after
      (before ++ (start ++ mark :: finish) ++ after) := by
  refine ⟨before, rfl, fun before' after' heq => ?_⟩
  by_contra! hlt
  -- The mark of an earlier occurrence would stand in `before ++ start`.
  have hmark : (before' ++ (start ++ mark :: finish) ++ after')[before'.length + start.length]? =
      some mark := by simp
  have hassoc : before ++ (start ++ mark :: finish) ++ after =
      (before ++ start) ++ (mark :: finish ++ after) := by simp
  rw [← heq, hassoc, List.getElem?_append_left (by simp; omega)] at hmark
  exact h (List.mem_of_getElem? hmark)

/-- The two forms of a header. -/
inductive HeaderForm where
  /-- As in `Sim: 120, WallClock: 35, WallDiff: 1`. -/
  | plain
  /-- As in `Time: [Sim=120, WallClock=35, WallDiff=1]`, which the simulator prints. -/
  | printed

namespace HeaderForm

variable (form : HeaderForm) {c : Char}

/-- What stands before the first key. -/
def opening : HeaderForm → List Char
  | plain => []
  | printed => "Time: [".toList

/-- What stands between a key and its number. -/
def separators : HeaderForm → List Char
  | plain => ": ".toList
  | printed => "=".toList

/-- What follows the last number. -/
def closing : HeaderForm → List Char
  | plain => []
  | printed => "]".toList

/-- A key and its number. -/
def entry (key : String) (number : FloatText) : List Char :=
  key.toList ++ form.separators ++ number.text

/-- The characters of the forms that belong to no key and no number. -/
def marks : List Char := "Time: [=,]".toList

theorem notMem_parts (h : c ∉ marks) :
    c ∉ form.opening ∧ c ∉ form.separators ∧ c ∉ form.closing ∧ c ∉ ", ".toList := by
  have hmarks : form.opening ++ form.separators ++ form.closing ++ ", ".toList ⊆ marks := by
    cases form <;> decide
  have hnot : c ∉ form.opening ++ form.separators ++ form.closing ++ ", ".toList := fun hc =>
    h (hmarks hc)
  simpa [and_assoc] using hnot

theorem notMem_entry {key : String} {number : FloatText} (hnumber : ¬ Decimal.IsFloatChar c)
    (hmarks : c ∉ marks) (hkey : c ∉ key.toList) : c ∉ form.entry key number := by
  obtain ⟨-, hseparators, -, -⟩ := form.notMem_parts hmarks
  simp [entry, hkey, hseparators, number.notMem hnumber]

/-- The number of an entry is found if nothing before the entry has a certain character of its key.
-/
theorem hasNumber_entry {key : String} {number : FloatText} {mark : Char}
    {before start finish rest : List Char} (hkey : key.toList = start ++ mark :: finish)
    (hmark : mark ∉ before ++ start) (hrest : ∀ c ∈ rest.head?, c ∈ [',', ']'] ∨ isBlank c) :
    HasNumber key.toList number.value (before ++ form.entry key number ++ rest) := by
  have hseparators : form.separators ⊆ [':', '=', ' '] := by cases form <;> decide
  refine ⟨form.separators, number.text, rest, ?_, fun c hc => hseparators hc,
    number.readFloat?_text, hrest⟩
  have hline : before ++ form.entry key number ++ rest =
      before ++ key.toList ++ (form.separators ++ number.text ++ rest) := by simp [entry]
  rw [hline, hkey]
  exact followsFirst_mark hmark

/-- What follows the last number ends it. -/
theorem head_closing {blanks : List Char} (h : allBlank blanks) :
    ∀ c ∈ (form.closing ++ blanks).head?, c ∈ [',', ']'] ∨ isBlank c := by
  intro c hc
  cases form with
  | plain => exact .inr (List.all_eq_true.mp h c (List.mem_of_head? hc))
  | printed =>
    obtain rfl : ']' = c := Option.some.inj hc
    exact .inl (by decide)

end HeaderForm

/-- A header in one of its forms. -/
structure HeaderText where
  form : HeaderForm
  simulated : FloatText
  elapsed : FloatText
  sinceReport : FloatText

namespace HeaderText

variable (header : HeaderText)

/-- What stands before the second entry. -/
def untilElapsed : List Char :=
  header.form.opening ++ header.form.entry "Sim" header.simulated ++ ", ".toList

/-- What stands before the third entry. -/
def untilSinceReport : List Char :=
  header.untilElapsed ++ header.form.entry "WallClock" header.elapsed ++ ", ".toList

/-- The line. -/
def line : List Char :=
  header.untilSinceReport ++ header.form.entry "WallDiff" header.sinceReport ++ header.form.closing

/-- The values of the line. -/
def timing : Timing :=
  ⟨header.simulated.value, header.elapsed.value, header.sinceReport.value⟩

theorem notMem_untilElapsed {c : Char} (hnumber : ¬ Decimal.IsFloatChar c)
    (hmarks : c ∉ HeaderForm.marks) (hkey : c ∉ "Sim".toList) : c ∉ header.untilElapsed := by
  obtain ⟨hopening, -, -, hcomma⟩ := header.form.notMem_parts hmarks
  simp only [untilElapsed, List.mem_append, not_or]
  exact ⟨⟨hopening, header.form.notMem_entry hnumber hmarks hkey⟩, hcomma⟩

theorem notMem_untilSinceReport {c : Char} (hnumber : ¬ Decimal.IsFloatChar c)
    (hmarks : c ∉ HeaderForm.marks) (hfirst : c ∉ "Sim".toList) (hsecond : c ∉ "WallClock".toList) :
    c ∉ header.untilSinceReport := by
  obtain ⟨-, -, -, hcomma⟩ := header.form.notMem_parts hmarks
  simp only [untilSinceReport, List.mem_append, not_or]
  exact ⟨⟨header.notMem_untilElapsed hnumber hmarks hfirst,
    header.form.notMem_entry hnumber hmarks hsecond⟩, hcomma⟩

/-- A line is read, whatever blanks follow it. -/
theorem isSpelledBy_line {blanks : List Char} (h : allBlank blanks) :
    header.timing.IsSpelledBy (header.line ++ blanks) where
  simulated := by
    have hline : header.line ++ blanks = header.form.opening ++
        header.form.entry "Sim" header.simulated ++ (", ".toList ++
          header.form.entry "WallClock" header.elapsed ++ ", ".toList ++
          header.form.entry "WallDiff" header.sinceReport ++ header.form.closing ++ blanks) := by
      simp [line, untilSinceReport, untilElapsed]
    have hkey : "Sim".toList = [] ++ 'S' :: "im".toList := rfl
    obtain ⟨hmark, -⟩ := header.form.notMem_parts (c := 'S') (by decide)
    rw [hline]
    exact header.form.hasNumber_entry hkey (by simpa using hmark) (by simp)
  elapsed := by
    have hline : header.line ++ blanks = header.untilElapsed ++
        header.form.entry "WallClock" header.elapsed ++ (", ".toList ++
          header.form.entry "WallDiff" header.sinceReport ++ header.form.closing ++ blanks) := by
      simp [line, untilSinceReport]
    have hkey : "WallClock".toList = [] ++ 'W' :: "allClock".toList := rfl
    have hmark : 'W' ∉ header.untilElapsed :=
      header.notMem_untilElapsed (by decide) (by decide) (by decide)
    rw [hline]
    exact header.form.hasNumber_entry hkey (by simpa using hmark) (by simp)
  sinceReport := by
    have hline : header.line ++ blanks = header.untilSinceReport ++
        header.form.entry "WallDiff" header.sinceReport ++ (header.form.closing ++ blanks) := by
      simp [line]
    -- The third key begins as the second does, so its first letter is no mark.
    have hkey : "WallDiff".toList = "Wall".toList ++ 'D' :: "iff".toList := rfl
    have hmark : 'D' ∉ header.untilSinceReport :=
      header.notMem_untilSinceReport (by decide) (by decide) (by decide) (by decide)
    rw [hline]
    exact header.form.hasNumber_entry hkey (by simpa using hmark) (header.form.head_closing h)

example : (HeaderText.mk .plain ⟨"120".toList, rfl⟩ ⟨"35".toList, rfl⟩ ⟨"1".toList, rfl⟩).line =
    "Sim: 120, WallClock: 35, WallDiff: 1".toList := by decide +kernel

example : (HeaderText.mk .printed ⟨"120".toList, rfl⟩ ⟨"35".toList, rfl⟩ ⟨"1".toList, rfl⟩).line =
    "Time: [Sim=120, WallClock=35, WallDiff=1]".toList := by decide +kernel

/-- A header does not open a bracket, although one form has a bracket in it. -/
theorem not_opensBracket_line (s : List Char) : ¬ OpensBracket (header.line ++ s) := by
  obtain ⟨form, simulated, elapsed, sinceReport⟩ := header
  cases form <;> exact isHeader_iff.mp rfl

theorem isWritten_line : IsWritten header.line where
  no_feed := by
    have huntil : '\n' ∉ header.untilSinceReport :=
      header.notMem_untilSinceReport (by decide) (by decide) (by decide) (by decide)
    have hentry : '\n' ∉ header.form.entry "WallDiff" header.sinceReport :=
      header.form.notMem_entry (by decide) (by decide) (by decide)
    obtain ⟨-, -, hclosing, -⟩ := header.form.notMem_parts (c := '\n') (by decide)
    simp [line, huntil, hentry, hclosing]
  ends := by
    cases hform : header.form with
    | plain =>
      obtain ⟨s, c, hnumber, hc⟩ := header.sinceReport.exists_concat
      refine ⟨header.untilSinceReport ++ "WallDiff".toList ++ header.form.separators ++ s,
        c, ?_, hc⟩
      simp [line, HeaderForm.entry, HeaderForm.closing, hform, hnumber]
    | printed =>
      refine ⟨header.untilSinceReport ++ header.form.entry "WallDiff" header.sinceReport, ']', ?_,
        by decide⟩
      simp [line, HeaderForm.closing, hform]

end HeaderText

/-! ## Results -/

/-- A result in its usual form. -/
structure ResultText where
  header : Option HeaderText
  applications : List ApplicationText
  isComplete : applications.length = applicationCount

namespace ResultText

variable (written : ResultText)

/-- The lines. -/
def lines : List (List Char) :=
  (written.header.map HeaderText.line).toList ++ written.applications.map ApplicationText.line

/-- The values of the lines. -/
def result : RunResult where
  timing := written.header.map HeaderText.timing
  applications := written.applications.map ApplicationText.application

theorem isWritten_lines : ∀ line ∈ written.lines, IsWritten line := by
  intro line hline
  rcases List.mem_append.mp hline with hheader | happlication
  · obtain ⟨header, -, rfl⟩ := Option.map_eq_some_iff.mp (Option.mem_toList.mp hheader)
    exact header.isWritten_line
  · obtain ⟨app, -, rfl⟩ := List.mem_map.mp happlication
    exact app.isWritten_line

end ResultText

section

variable {s : List Char}

/-- A line is what trimming leaves of it, and blanks. -/
theorem exists_eq_append_blanks {line trimmed : List Char} (h : trimEnd line = trimmed) :
    ∃ blanks, line = trimmed ++ blanks ∧ allBlank blanks := h ▸ eq_trimEnd_append line

/-- If the first trimmed line is a header, so is the first written line. -/
theorem hasParts_of_header {header : HeaderText} {rest : List (List Char)}
    (h : trimmedLines s = header.line :: rest) :
    ∃ line number body, HasParts (writtenLines s) (some (line, number)) body ∧
      trimEnd line = header.line ∧ body.map (fun line => trimEnd line.1) = rest := by
  obtain ⟨⟨line, number⟩, body, hnumbered, hline, hbody⟩ := List.map_eq_cons_iff.mp h
  obtain ⟨blanks, rfl, -⟩ := exists_eq_append_blanks hline
  refine ⟨_, number, body, ?_, hline, hbody⟩
  rw [hnumbered]
  exact .headed (header.not_opensBracket_line blanks)

/-- If the trimmed lines are application lines, there is no header. -/
theorem hasParts_of_applications {applications : List ApplicationText}
    (h : trimmedLines s = applications.map ApplicationText.line) :
    HasParts (writtenLines s) none (writtenLines s) := by
  refine .bare fun first hfirst => ?_
  have hmem : trimEnd first.1 ∈ trimmedLines s := List.mem_map_of_mem (List.mem_of_head? hfirst)
  rw [h] at hmem
  obtain ⟨app, -, hline⟩ := List.mem_map.mp hmem
  obtain ⟨blanks, hfirst, -⟩ := exists_eq_append_blanks hline.symm
  exact ⟨[], app.inner ++ [']'] ++ blanks, hfirst, rfl⟩

/-- Application lines are read if they are written up to blanks at their ends. -/
theorem linesRead_applications {body : List (List Char × Nat)} {applications : List ApplicationText}
    (h : body.map (fun line => trimEnd line.1) = applications.map ApplicationText.line) :
    LinesRead Application.Reads body (.ok (applications.map ApplicationText.application)) := by
  rw [← List.forall₂_eq_eq_eq, List.forall₂_map_left_iff, List.forall₂_map_right_iff] at h
  refine .all (List.forall₂_map_right_iff.mpr (h.imp fun line app hline => ?_))
  obtain ⟨blanks, hline, hblanks⟩ := exists_eq_append_blanks hline
  rw [hline]
  exact app.reads_line hblanks

end

/-- **A result is read as it is written.** -/
theorem RunResult.ofText_written (written : ResultText) {text : String}
    (h : LaysOut written.lines text.toList) : ofText text = .ok written.result := by
  have hlines := h.trimmedLines_eq written.isWritten_lines
  have hcount : written.result.applications.length = applicationCount := by
    rw [ResultText.result, List.length_map, written.isComplete]
  cases hheader : written.header with
  | none =>
    have happlications : trimmedLines text.toList =
        written.applications.map ApplicationText.line := by
      rw [hlines, ResultText.lines, hheader]
      rfl
    refine (hasParts_of_applications happlications).ofText_eq_ok_iff.mpr ⟨?_, ?_, hcount⟩
    · rw [ResultText.result, hheader]
      exact .absent
    · exact linesRead_applications happlications
  | some header =>
    rw [ResultText.lines, hheader] at hlines
    obtain ⟨line, number, body, hparts, hline, hbody⟩ := hasParts_of_header hlines
    obtain ⟨blanks, rfl, hblanks⟩ := exists_eq_append_blanks hline
    refine hparts.ofText_eq_ok_iff.mpr ⟨?_, linesRead_applications hbody, hcount⟩
    rw [ResultText.result, hheader]
    exact .spelled (.spelled (header.isSpelledBy_line hblanks))

/-- A result as the simulator prints it, with floats in several notations. -/
def printedResult : ResultText where
  header := some {
    form := .printed
    simulated := ⟨"120".toList, by decide +kernel⟩
    elapsed := ⟨"+3.5e1".toList, by decide +kernel⟩
    sinceReport := ⟨".5".toList, by decide +kernel⟩ }
  applications := (List.range applicationCount).map fun i => {
    index := UInt64.ofNat i
    throughput := ⟨"9.5E7".toList, by decide +kernel⟩
    latency := ⟨"-inf".toList, by decide +kernel⟩ }
  isComplete := by simp

/-- Its lines, with a line feed between any two. -/
def printedText : List Char := ['\n'].intercalate printedResult.lines

/-- It is read with a blank line in front of it, and with carriage returns. -/
theorem RunResult.ofText_written_returns :
    LaysOut printedResult.lines ('\n' :: withReturns printedText) ∧
    ofText (String.ofList ('\n' :: withReturns printedText)) = .ok printedResult.result := by
  have hspaced : LaysOut printedResult.lines ('\n' :: withReturns printedText) :=
    .blankLine (rfl : allBlank []) (respaced_withReturns _)
  refine ⟨hspaced, ofText_written printedResult ?_⟩
  rwa [String.toList_ofList]

end RackTraffic
