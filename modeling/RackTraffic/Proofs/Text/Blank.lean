import Mathlib.Data.List.DropRight
import RackTraffic.Text.Blank

/-!
# Blanks at the ends of a text

Trimming takes away the blanks at an end of a text and nothing else (`eq_trimEnd_append`,
`eq_append_trimStart`): what is left does not end in a blank, and trimming it again changes nothing.
The words of a text are found one after the other (`words_append_cons`), and words that are joined
with blanks between them are found again (`words_intercalate`).
-/

namespace RackTraffic.Text

theorem isBlank_of_isDigit {c : Char} (h : c.isDigit) : isBlank c = false := by
  obtain ⟨hlow, hhigh⟩ := Char.isDigit_iff_toNat.mp h
  have hzero : '0'.toNat = 48 := by decide
  have hnine : '9'.toNat = 57 := by decide
  simp [isBlank]
  omega

@[simp] theorem allBlank_append (s t : List Char) :
    allBlank (s ++ t) = (allBlank s && allBlank t) := List.all_append

@[simp] theorem allBlank_cons (c : Char) (s : List Char) :
    allBlank (c :: s) = (isBlank c && allBlank s) := rfl

/-! ## Trimming -/

theorem trimEnd_concat (s : List Char) {c : Char} (h : isBlank c = false) :
    trimEnd (s ++ [c]) = s ++ [c] := by
  simp [trimEnd, dropEndWhile, h]

/-- What is dropped at the end of a text, and what stands before it. -/
theorem eq_dropEndWhile_append (p : Char → Bool) (s : List Char) :
    ∃ dropped, s = dropEndWhile p s ++ dropped ∧ dropped.all p := by
  refine ⟨(s.reverse.takeWhile p).reverse, ?_, ?_⟩
  · rw [dropEndWhile, ← List.reverse_append, List.takeWhile_append_dropWhile, List.reverse_reverse]
  · rw [List.all_reverse, List.all_takeWhile]

theorem getLast_dropEndWhile {p : Char → Bool} {s : List Char} {c : Char}
    (h : (dropEndWhile p s).getLast? = some c) : p c = false := by
  rw [dropEndWhile, List.getLast?_reverse] at h
  simpa [h] using List.head?_dropWhile_not p s.reverse

/-- Nothing is dropped from a text that ends otherwise. -/
theorem dropEndWhile_eq_self {p : Char → Bool} {s : List Char}
    (h : ∀ c ∈ s.getLast?, p c = false) : dropEndWhile p s = s := by
  rcases List.eq_nil_or_concat' s with rfl | ⟨t, c, rfl⟩
  · rfl
  · have hc : p c = false := h c (by simp)
    simp [dropEndWhile, hc]

/-- The blanks at the end of a text, and what stands before them. -/
theorem eq_trimEnd_append (s : List Char) :
    ∃ blanks, s = trimEnd s ++ blanks ∧ allBlank blanks :=
  eq_dropEndWhile_append isBlank s

theorem isBlank_getLast_trimEnd {s : List Char} {c : Char} (h : (trimEnd s).getLast? = some c) :
    isBlank c = false :=
  getLast_dropEndWhile h

theorem trimEnd_trimEnd (s : List Char) : trimEnd (trimEnd s) = trimEnd s :=
  dropEndWhile_eq_self fun _ hc => isBlank_getLast_trimEnd hc

theorem trimEnd_eq_nil_iff {s : List Char} : trimEnd s = [] ↔ allBlank s := by
  constructor
  · intro h
    obtain ⟨blanks, hs, hblanks⟩ := eq_trimEnd_append s
    rw [hs, h]
    exact hblanks
  · intro h
    exact trimEnd_append_of_allBlank [] s h

/-- The blanks at the start of a text, and what follows them. -/
theorem eq_append_trimStart (s : List Char) :
    ∃ blanks, s = blanks ++ trimStart s ∧ allBlank blanks :=
  ⟨s.takeWhile isBlank, List.takeWhile_append_dropWhile.symm, List.all_takeWhile⟩

theorem trimStart_append {blanks : List Char} (h : allBlank blanks) {c : Char}
    (hc : isBlank c = false) (s : List Char) : trimStart (blanks ++ c :: s) = c :: s := by
  have hblanks : ∀ b ∈ blanks, isBlank b := by simpa [allBlank] using h
  rw [trimStart, List.dropWhile_append_of_pos hblanks, List.dropWhile_cons_of_neg (by simp [hc])]

/-! ## Words -/

/-- A text consists of words, with blanks between any two of them and perhaps around them. -/
inductive AreWordsOf : List (List Char) → List Char → Prop where
  | nil {blanks : List Char} (hblanks : allBlank blanks) : AreWordsOf [] blanks
  | last {blanks word : List Char} (hblanks : allBlank blanks) (hne : word ≠ [])
      (hword : ∀ c ∈ word, isBlank c = false) : AreWordsOf [word] (blanks ++ word)
  | cons {blanks word s : List Char} {c : Char} {ws : List (List Char)} (hblanks : allBlank blanks)
      (hne : word ≠ []) (hword : ∀ c ∈ word, isBlank c = false) (hc : isBlank c)
      (h : AreWordsOf ws s) : AreWordsOf (word :: ws) (blanks ++ (word ++ c :: s))

/-- What stands before a blank and what follows it have words of their own. -/
theorem words_append_blank_cons {c : Char} (hc : isBlank c) (s t : List Char) :
    words (s ++ c :: t) = words s ++ words t := by
  rw [words, List.splitOnP_append_cons s t hc, List.filter_append, words, words]

theorem words_eq_singleton {word : List Char} (hne : word ≠ [])
    (hword : ∀ c ∈ word, isBlank c = false) : words word = [word] := by
  rw [words, List.splitOnP_eq_singleton hword, List.filter_cons_of_pos (by simpa using hne),
    List.filter_nil]

/-- A word stands in front of the others. -/
theorem words_append_cons {word : List Char} (hne : word ≠ [])
    (hword : ∀ c ∈ word, isBlank c = false)
    {c : Char} (hc : isBlank c) (s : List Char) : words (word ++ c :: s) = word :: words s := by
  rw [words_append_blank_cons hc, words_eq_singleton hne hword, List.singleton_append]

/-- Words that are joined with a blank between any two are found again. -/
theorem words_intercalate {c : Char} (hc : isBlank c) {ws : List (List Char)}
    (hws : ∀ word ∈ ws, word ≠ [] ∧ ∀ d ∈ word, isBlank d = false) :
    words ([c].intercalate ws) = ws := by
  induction ws with
  | nil => rfl
  | cons word ws ih =>
    obtain ⟨⟨hne, hword⟩, hws⟩ := List.forall_mem_cons.mp hws
    cases ws with
    | nil => rw [List.intercalate_singleton, words_eq_singleton hne hword]
    | cons next ws =>
      rw [List.intercalate_cons_cons, List.append_assoc, List.singleton_append,
        words_append_cons hne hword hc, ih hws]

/-- Blanks at the start of a text are in no word. -/
theorem words_append_of_allBlank {blanks : List Char} (h : allBlank blanks) (s : List Char) :
    words (blanks ++ s) = words s := by
  induction blanks with
  | nil => rfl
  | cons c blanks ih =>
    obtain ⟨hc, hblanks⟩ : isBlank c ∧ allBlank blanks := by simpa using h
    have hsplit : words (c :: (blanks ++ s)) = words (blanks ++ s) := by
      rw [words, List.splitOnP_cons_eq_if_modifyHead, if_pos hc, List.filter_cons_of_neg (by simp),
        words]
    rw [List.cons_append, hsplit, ih hblanks]

theorem AreWordsOf.eq_words {ws : List (List Char)} {s : List Char} (h : AreWordsOf ws s) :
    ws = words s := by
  induction h with
  | @nil blanks hblanks =>
    have hwords := words_append_of_allBlank hblanks []
    rw [List.append_nil] at hwords
    exact hwords.symm
  | last hblanks hne hword => rw [words_append_of_allBlank hblanks, words_eq_singleton hne hword]
  | cons hblanks hne hword hc _ ih =>
    rw [words_append_of_allBlank hblanks, words_append_cons hne hword hc, ih]

theorem AreWordsOf.blank_cons {ws : List (List Char)} {s : List Char} (h : AreWordsOf ws s)
    {c : Char}
    (hc : isBlank c) : AreWordsOf ws (c :: s) := by
  cases h with
  | nil hblanks => exact .nil (by simp [hc, hblanks])
  | @last blanks word hblanks hne hword =>
    exact .last (by simp [hc, hblanks] : allBlank (c :: blanks)) hne hword
  | @cons blanks word s d ws hblanks hne hword hd h =>
    exact .cons (by simp [hc, hblanks] : allBlank (c :: blanks)) hne hword hd h

/-- A character that is no blank begins the first word, or is a word by itself. -/
theorem AreWordsOf.exists_letter_cons {ws : List (List Char)} {s : List Char} (h : AreWordsOf ws s)
    {c : Char} (hc : isBlank c = false) : ∃ ws', AreWordsOf ws' (c :: s) := by
  have hletter : ∀ d ∈ [c], isBlank d = false := List.forall_mem_singleton.mpr hc
  have hjoin : ∀ {word : List Char}, (∀ d ∈ word, isBlank d = false) →
      ∀ d ∈ c :: word, isBlank d = false := fun hword => List.forall_mem_cons.mpr ⟨hc, hword⟩
  cases h with
  | nil hblanks =>
    cases s with
    | nil => exact ⟨[[c]], .last (rfl : allBlank []) (List.cons_ne_nil _ _) hletter⟩
    | cons b blanks =>
      obtain ⟨hb, hblanks⟩ : isBlank b ∧ allBlank blanks := by simpa using hblanks
      exact ⟨_, .cons (rfl : allBlank []) (List.cons_ne_nil _ _) hletter hb (.nil hblanks)⟩
  | @last blanks word hblanks hne hword =>
    cases blanks with
    | nil => exact ⟨[c :: word], .last (rfl : allBlank []) (List.cons_ne_nil _ _) (hjoin hword)⟩
    | cons b blanks =>
      obtain ⟨hb, hblanks⟩ : isBlank b ∧ allBlank blanks := by simpa using hblanks
      exact ⟨_, .cons (rfl : allBlank []) (List.cons_ne_nil _ _) hletter hb
        (.last hblanks hne hword)⟩
  | @cons blanks word s d ws hblanks hne hword hd h =>
    cases blanks with
    | nil => exact ⟨_, .cons (rfl : allBlank []) (List.cons_ne_nil _ _) (hjoin hword) hd h⟩
    | cons b blanks =>
      obtain ⟨hb, hblanks⟩ : isBlank b ∧ allBlank blanks := by simpa using hblanks
      exact ⟨_, .cons (rfl : allBlank []) (List.cons_ne_nil _ _) hletter hb
        (.cons hblanks hne hword hd h)⟩

theorem exists_areWordsOf (s : List Char) : ∃ ws, AreWordsOf ws s := by
  induction s with
  | nil => exact ⟨[], .nil rfl⟩
  | cons c s ih =>
    obtain ⟨ws, h⟩ := ih
    cases hc : isBlank c with
    | true => exact ⟨ws, h.blank_cons hc⟩
    | false => exact h.exists_letter_cons hc

/-- **A text consists of its words**, and of no others. -/
theorem areWordsOf_iff {ws : List (List Char)} {s : List Char} :
    AreWordsOf ws s ↔ ws = words s := by
  constructor
  · exact AreWordsOf.eq_words
  · rintro rfl
    obtain ⟨ws, h⟩ := exists_areWordsOf s
    rwa [h.eq_words] at h

end RackTraffic.Text
