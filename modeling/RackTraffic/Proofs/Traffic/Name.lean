import Mathlib.Data.List.TakeDrop
import RackTraffic.Proofs.Disk.Path
import RackTraffic.Proofs.Text.Integer
import RackTraffic.Traffic.Name

/-!
# Names and what they stand for

A name that is made from a number or a pair is recognised as just that (`ofFlowLogName?_eq_some`,
`ofAllocationLogName?_eq_some`, `ofResultName?_eq_some`). So each scenario and each pair has names
of its own: the names of one kind are different for different pairs.

All of them can be names of entries of a directory (`NameForm.isEntryName`): they have neither a
slash nor a null character, and they are short.
-/

namespace RackTraffic

/-! ## Forms -/

theorem Text.dropStart?_append (start s : List Char) :
    Text.dropStart? start (start ++ s) = some s := by
  simp [Text.dropStart?]

theorem Text.dropSuffix?_append (s suffix : List Char) :
    Text.dropSuffix? suffix (s ++ suffix) = some s := by
  simp [Text.dropSuffix?]

theorem NameForm.toList_name (form : NameForm) (stem : List Char) :
    (form.name stem).toList = form.before ++ stem ++ form.after := by
  simp [NameForm.name]

/-- A name of a form has the stem that it was made with. -/
theorem NameForm.stem?_name (form : NameForm) (stem : List Char) :
    form.stem? (form.name stem) = some stem := by
  rw [NameForm.stem?, NameForm.toList_name, List.append_assoc, Text.dropStart?_append]
  exact Text.dropSuffix?_append stem form.after

theorem NameForm.name_injective (form : NameForm) {stem stem' : List Char}
    (h : form.name stem = form.name stem') : stem = stem' := by
  have hstem : some stem = some stem' := by
    rw [← form.stem?_name, ← form.stem?_name, h]
  exact Option.some.inj hstem

/-- The end of a name is that of its form. -/
theorem NameForm.take_reverse_name (form : NameForm) (stem : List Char)
    (h : 3 ≤ form.after.length) :
    (form.name stem).toList.reverse.take 3 = form.after.reverse.take 3 := by
  rw [toList_name, List.reverse_append, List.take_append_of_le_length (by simpa using h)]

/-! ## Stems -/

theorem readNumber?_ofUInt64 (n : UInt64) : readNumber? (Integer.ofUInt64 n) = some n := by
  rw [readNumber?, Integer.readUInt64_ofUInt64]
  rfl

namespace PairId

/-- The first underscore of a stem stands between the two numbers. -/
theorem span_text (id : PairId) : id.text.span (· != '_') =
    (Integer.ofUInt64 id.scenario.number, '_' :: Integer.ofUInt64 id.variant.number) := by
  have hdigits : ∀ c ∈ Integer.ofUInt64 id.scenario.number, (c != '_') = true := by
    intro c hc
    simpa using Integer.ne_of_mem_ofUInt64 hc (x := '_') (by decide)
  rw [List.span_eq_takeWhile_dropWhile, text,
    List.takeWhile_append_of_pos hdigits, List.dropWhile_append_of_pos hdigits]
  simp

theorem ofStem?_text (id : PairId) : ofStem? id.text = some id := by
  rw [ofStem?, span_text]
  simp [readNumber?_ofUInt64]

theorem text_injective {a b : PairId} (h : a.text = b.text) : a = b := by
  have hread : some a = some b := by
    rw [← ofStem?_text, ← ofStem?_text, h]
  exact Option.some.inj hread

/-- A stem consists of digits and an underscore. -/
theorem mem_text {id : PairId} {c : Char} (h : c ∈ id.text) : c.isDigit ∨ c = '_' := by
  rw [text, List.mem_append, List.mem_cons] at h
  rcases h with h | rfl | h
  · exact .inl (Integer.isDigit_of_mem_ofUInt64 h)
  · exact .inr rfl
  · exact .inl (Integer.isDigit_of_mem_ofUInt64 h)

/-- A stem starts with a digit. -/
theorem exists_text_eq_cons (id : PairId) : ∃ c rest, id.text = c :: rest ∧ c.isDigit := by
  obtain ⟨c, rest, h⟩ :=
    List.exists_cons_of_ne_nil (Integer.ofUInt64_ne_nil id.scenario.number)
  refine ⟨c, rest ++ '_' :: Integer.ofUInt64 id.variant.number, by simp [text, h], ?_⟩
  exact Integer.isDigit_of_mem_ofUInt64 (n := id.scenario.number) (by simp [h])

theorem length_text_le (id : PairId) : id.text.length ≤ 41 := by
  have hs := Integer.length_ofUInt64_le id.scenario.number
  have hv := Integer.length_ofUInt64_le id.variant.number
  simp only [text, List.length_append, List.length_cons]
  omega

end PairId

/-! ## Recognition -/

/-- A key that is read from a name and kept only if it gives the name back. -/
theorem checked_eq_some {κ : Type} {read : Option κ} {nameOf : κ → String} {name : String}
    {key : κ} :
    (read.bind fun k => if nameOf k = name then some k else none) = some key ↔
      read = some key ∧ nameOf key = name := by
  rw [Option.bind_eq_some_iff]
  constructor
  · rintro ⟨k, hread, h⟩
    split at h
    case isTrue hname =>
      cases h
      exact ⟨hread, hname⟩
    case isFalse => cases h
  · rintro ⟨hread, hname⟩
    exact ⟨key, hread, by rw [if_pos hname]⟩

/-- A flow log is recognised by its name and by no other. -/
theorem ScenarioId.ofFlowLogName?_eq_some {name : String} {id : ScenarioId} :
    ofFlowLogName? name = some id ↔ id.flowLogName = name := by
  constructor
  · intro h
    obtain ⟨_, -, h⟩ := Option.bind_eq_some_iff.mp h
    obtain ⟨number, -, h⟩ := Option.bind_eq_some_iff.mp h
    have hchecked : ((some (⟨number⟩ : ScenarioId)).bind fun k =>
        if k.flowLogName = name then some k else none) = some id := h
    exact (checked_eq_some.mp hchecked).2
  · rintro rfl
    simp [ofFlowLogName?, flowLogName, NameForm.stem?_name, readNumber?_ofUInt64]

/-- An allocation log is recognised by its name and by no other. -/
theorem PairId.ofAllocationLogName?_eq_some {name : String} {id : PairId} :
    ofAllocationLogName? name = some id ↔ id.allocationLogName = name := by
  constructor
  · intro h
    obtain ⟨_, -, h⟩ := Option.bind_eq_some_iff.mp h
    exact (checked_eq_some.mp h).2
  · rintro rfl
    simp [ofAllocationLogName?, allocationLogName, NameForm.stem?_name, ofStem?_text]

/-- A result is recognised by its name and by no other. -/
theorem PairId.ofResultName?_eq_some {name : String} {id : PairId} :
    ofResultName? name = some id ↔ id.resultName = name := by
  constructor
  · intro h
    obtain ⟨_, -, h⟩ := Option.bind_eq_some_iff.mp h
    exact (checked_eq_some.mp h).2
  · rintro rfl
    simp [ofResultName?, resultName, NameForm.stem?_name, ofStem?_text]

/-! ## Names of entries -/

/-- What is not allowed in a name does not come from a stem. -/
theorem PairId.notMem_text {c : Char} (hdigit : c.isDigit = false) (hline : c ≠ '_')
    (id : PairId) : c ∉ id.text := by
  intro hmem
  rcases mem_text hmem with h | h
  · simp [h] at hdigit
  · exact hline h

/-- A name of a form is the name of an entry, if the form has nothing against it. -/
theorem NameForm.isEntryName {form : NameForm} (hslash : '/' ∉ form.before ++ form.after)
    (hnull : '\x00' ∉ form.before ++ form.after) (hmin : 3 ≤ form.after.length)
    (hmax : (form.before ++ form.after).length ≤ 20) {stem : List Char} (hstem : '/' ∉ stem)
    (hstem' : '\x00' ∉ stem) (hlength : stem.length ≤ 41) : IsEntryName (form.name stem) := by
  have hlong : 3 ≤ (form.name stem).toList.length := by
    rw [toList_name, List.length_append]
    omega
  refine ⟨?_, ?_, ?_, ?_, ?_, ?_⟩
  · rw [toList_name]
    simp_all
  · rw [toList_name]
    simp_all
  · intro h
    simp [h] at hlong
  · intro h
    simp [h] at hlong
  · intro h
    simp [h] at hlong
  · refine Nat.le_trans (utf8ByteSize_ofList_le _) ?_
    simp only [List.length_append] at hmax ⊢
    have : Disk.maxNameBytes = 255 := rfl
    omega

namespace PairId

theorem isEntryName_name (id : PairId) {form : NameForm} (hslash : '/' ∉ form.before ++ form.after)
    (hnull : '\x00' ∉ form.before ++ form.after) (hmin : 3 ≤ form.after.length)
    (hmax : (form.before ++ form.after).length ≤ 20) : IsEntryName (form.name id.text) :=
  NameForm.isEntryName hslash hnull hmin hmax (id.notMem_text (by decide) (by decide))
    (id.notMem_text (by decide) (by decide)) id.length_text_le

theorem isEntryName_resultName (id : PairId) : IsEntryName id.resultName :=
  id.isEntryName_name (by decide) (by decide) (by decide) (by decide)

theorem isEntryName_allocationLogName (id : PairId) : IsEntryName id.allocationLogName :=
  id.isEntryName_name (by decide) (by decide) (by decide) (by decide)

end PairId

theorem ScenarioId.isEntryName_flowLogName (id : ScenarioId) : IsEntryName id.flowLogName := by
  refine NameForm.isEntryName (by decide) (by decide) (by decide) (by decide) ?_ ?_ ?_
  · exact fun h => Integer.ne_of_mem_ofUInt64 h (x := '/') (by decide) rfl
  · exact fun h => Integer.ne_of_mem_ofUInt64 h (x := '\x00') (by decide) rfl
  · exact Nat.le_trans (Integer.length_ofUInt64_le _) (by decide)

end RackTraffic
