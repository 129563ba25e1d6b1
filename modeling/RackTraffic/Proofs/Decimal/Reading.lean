import Mathlib.Data.List.TakeDrop
import RackTraffic.Decimal.Reading
import RackTraffic.Proofs.Text.Blank

/-!
# The characters of numbers

The text of a float is made of digits, signs, the point, and the letters of exponents and of the
words for infinity and for what is no number (`isFloatChar_of_readFloat?`). So it has neither blanks
nor brackets in it, nothing that separates numbers, and none of the capital letters that keys begin
with.
-/

namespace RackTraffic.Decimal

variable {s : List Char} {c : Char} {x : Float}

/-- The characters of floats that are no digits. -/
def floatMarks : List Char := "+-.aefintyAEFINTY".toList

/-- A character that the text of a float can have. -/
def IsFloatChar (c : Char) : Prop := c.isDigit ∨ c ∈ floatMarks

instance : DecidablePred IsFloatChar := fun c =>
  inferInstanceAs (Decidable (c.isDigit ∨ c ∈ floatMarks))

theorem IsFloatChar.isBlank_eq (h : IsFloatChar c) : Text.isBlank c = false := by
  have hmarks : floatMarks.all (! Text.isBlank ·) := by decide
  rcases h with h | h
  · exact Text.isBlank_of_isDigit h
  · simpa using List.all_eq_true.mp hmarks c h

/-! ## Parts of a number -/

theorem mem_takeSign (hc : c ∈ s) : c ∈ ['-', '+'] ∨ c ∈ (takeSign s).2 := by
  unfold takeSign
  split
  · exact (List.mem_cons.mp hc).imp_left fun h => by simp [h]
  · exact (List.mem_cons.mp hc).imp_left fun h => by simp [h]
  · exact .inr hc

theorem mem_takeDigits (hc : c ∈ s) : c.isDigit ∨ c ∈ (takeDigits s).2 := by
  rw [takeDigits, List.span_eq_takeWhile_dropWhile]
  rw [← List.takeWhile_append_dropWhile (p := Char.isDigit) (l := s)] at hc
  exact (List.mem_append.mp hc).imp_left List.mem_takeWhile_imp

theorem isFloatChar_of_mem_signs (hc : c ∈ ['-', '+']) : IsFloatChar c := by
  have hsigns : ['-', '+'] ⊆ floatMarks := by decide
  exact .inr (hsigns hc)

theorem toLower_cases (c : Char) : c.toLower = c ∨ c.toLower.toNat = c.toNat + 32 := by
  unfold Char.toLower
  split
  · next h =>
    right
    have hupper : c.val.toNat ≤ 90 := h.2
    have hstep : ('a'.val - 'A'.val).toNat = 32 := by decide
    show (c.val + ('a'.val - 'A'.val)).toNat = c.val.toNat + 32
    rw [UInt32.toNat_add, hstep, Nat.mod_eq_of_lt (by omega)]
  · exact .inl rfl

/-- A letter of a word may be in either case. -/
theorem mem_floatMarks_of_toLower (hc : c.toLower ∈ "aefinty".toList) : c ∈ floatMarks := by
  rcases toLower_cases c with hsame | hupper
  · have hlower : "aefinty".toList ⊆ floatMarks := by decide
    exact hlower (hsame ▸ hc)
  · have hcase : "aefinty".toList.all fun d => floatMarks.any (d.toNat == ·.toNat + 32) := by decide
    obtain ⟨u, hu, hd⟩ := List.any_eq_true.mp (List.all_eq_true.mp hcase _ hc)
    obtain rfl : c = u := Char.toNat_inj.mp (by simp only [beq_iff_eq] at hd; omega)
    exact hu

theorem isFloatChar_of_readName? (h : (readName? s).isSome) (hc : c ∈ s) : IsFloatChar c := by
  have hword : s.map Char.toLower ∈ ["inf".toList, "infinity".toList, "nan".toList] := by
    simp only [readName?] at h
    split_ifs at h with hinfinite hnan
    · rcases hinfinite with hword | hword <;> rw [hword] <;> decide
    · rw [hnan]
      decide
    · cases h
  have hletters : ∀ word ∈ ["inf".toList, "infinity".toList, "nan".toList],
      word ⊆ "aefinty".toList := by decide
  exact .inr (mem_floatMarks_of_toLower (hletters _ hword (List.mem_map_of_mem hc)))

theorem isFloatChar_of_readExponent (h : (readExponent s).isSome) (hc : c ∈ s) : IsFloatChar c := by
  cases s with
  | nil => cases hc
  | cons e rest =>
    obtain ⟨he, hdigits⟩ : (e = 'e' ∨ e = 'E') ∧ (takeSign rest).2.all Char.isDigit := by
      simp only [readExponent] at h
      split at h
      · next he =>
        split at h
        · next hdigits => exact ⟨he, hdigits.2⟩
        · cases h
      · cases h
    rcases List.mem_cons.mp hc with rfl | hc
    · right
      rcases he with rfl | rfl <;> decide
    · rcases mem_takeSign hc with hsign | hdigit
      · exact isFloatChar_of_mem_signs hsign
      · exact .inl (List.all_eq_true.mp hdigits c hdigit)

/-- The digits after a point, if there is one, and what follows them. -/
def takeFraction : List Char → List Char × List Char
  | '.' :: rest => takeDigits rest
  | s => ([], s)

theorem takeFraction_of_ne (h : ∀ rest, s ≠ '.' :: rest) : takeFraction s = ([], s) := by
  unfold takeFraction
  split
  · exact absurd rfl (h _)
  · rfl

theorem mem_takeFraction (hc : c ∈ s) : IsFloatChar c ∨ c ∈ (takeFraction s).2 := by
  unfold takeFraction
  split
  · rcases List.mem_cons.mp hc with rfl | hc
    · exact .inl (.inr (by decide))
    · exact (mem_takeDigits hc).imp_left .inl
  · exact .inr hc

theorem readDecimal?_eq (s : List Char) : readDecimal? s =
    if (takeDigits s).1 = [] ∧ (takeFraction (takeDigits s).2).1 = [] then none
    else (readExponent (takeFraction (takeDigits s).2).2).map fun e =>
      nearestFloat (digitsValue ((takeDigits s).1 ++ (takeFraction (takeDigits s).2).1))
        (e - (takeFraction (takeDigits s).2).1.length) := by
  unfold readDecimal?
  obtain ⟨whole, rest⟩ := takeDigits s
  dsimp only
  split
  · rfl
  · next hpoint => rw [takeFraction_of_ne hpoint]

theorem isFloatChar_of_readDecimal? (h : (readDecimal? s).isSome) (hc : c ∈ s) : IsFloatChar c := by
  have hexponent : (readExponent (takeFraction (takeDigits s).2).2).isSome := by
    rw [readDecimal?_eq] at h
    split at h
    · cases h
    · rwa [Option.isSome_map] at h
  rcases mem_takeDigits hc with hdigit | hc
  · exact .inl hdigit
  · rcases mem_takeFraction hc with hchar | hc
    · exact hchar
    · exact isFloatChar_of_readExponent hexponent hc

/-! ## Numbers -/

theorem readFloat?_eq (s : List Char) : readFloat? s =
    ((readName? (takeSign s).2).or (readDecimal? (takeSign s).2)).map fun x =>
      if (takeSign s).1 then -x else x := rfl

/-- The characters of a text that is read as a float. -/
theorem isFloatChar_of_readFloat? (h : readFloat? s = some x) (hc : c ∈ s) : IsFloatChar c := by
  rw [readFloat?_eq] at h
  obtain ⟨magnitude, hmagnitude, -⟩ := Option.map_eq_some_iff.mp h
  rcases mem_takeSign hc with hsign | hc
  · exact isFloatChar_of_mem_signs hsign
  · rcases Option.or_eq_some_iff.mp hmagnitude with hname | ⟨-, hdecimal⟩
    · exact isFloatChar_of_readName? (by simp [hname]) hc
    · exact isFloatChar_of_readDecimal? (by simp [hdecimal]) hc

theorem readFloat?_nil : readFloat? [] = none := rfl

theorem ne_nil_of_readFloat? (h : readFloat? s = some x) : s ≠ [] := by
  rintro rfl
  simp [readFloat?_nil] at h

end RackTraffic.Decimal
