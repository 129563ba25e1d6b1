import RackTraffic.Proofs.Fallible
import RackTraffic.Proofs.Text.Integer

/-!
# Which texts are integers

A *numeral* is one or more digits, and its value is that of its digits. A text spells a number if it
is a numeral, perhaps after a sign (`SpellsNat`, `SpellsInt`). Reading a word accepts exactly the
texts that spell one (`readUInt64_eq_ok_iff`, `readInt64_eq_ok_iff`): zeros in front do not matter,
and a text that spells a number of another width is refused.
-/

namespace RackTraffic

namespace Integer

open Nat (ofDigitChars)

/-- One or more digits with a given value. -/
structure IsNumeral (s : List Char) (n : Nat) : Prop where
  ne_nil : s ≠ []
  isDigit : ∀ c ∈ s, c.isDigit
  value : ofDigitChars 10 s 0 = n

/-- A text spells a natural number. -/
inductive SpellsNat (n : Nat) : List Char → Prop where
  | bare {digits : List Char} (h : IsNumeral digits n) : SpellsNat n digits
  | plus {digits : List Char} (h : IsNumeral digits n) : SpellsNat n ('+' :: digits)

/-- A text spells an integer. -/
inductive SpellsInt (n : Int) : List Char → Prop where
  | nat {s : List Char} {v : Nat} (h : SpellsNat v s) (hv : n = v) : SpellsInt n s
  | minus {digits : List Char} {v : Nat} (h : IsNumeral digits v) (hv : n = -v) :
      SpellsInt n ('-' :: digits)

/-! ## Digits -/

/-- Digits are read if their value does not exceed the limit. -/
theorem readDigits_eq_ok_iff {limit v n : Nat} {excess : Fault} {s : List Char} (hv : v ≤ limit) :
    readDigits limit excess v s = .ok n ↔
      (∀ c ∈ s, c.isDigit) ∧ ofDigitChars 10 s v = n ∧ n ≤ limit := by
  constructor
  · intro h
    induction s generalizing v with
    | nil =>
      cases h
      exact ⟨nofun, by simp, hv⟩
    | cons c s ih =>
      simp only [readDigits] at h
      split_ifs at h with hdigit hlimit
      obtain ⟨hdigits, hvalue, hn⟩ := ih hlimit h
      exact ⟨List.forall_mem_cons.mpr ⟨hdigit, hdigits⟩, by rwa [Nat.ofDigitChars_cons], hn⟩
  · rintro ⟨hdigits, rfl, hlimit⟩
    exact readDigits_eq_ok limit excess s v hdigits hlimit

theorem readMagnitude_eq_ok_iff {limit n : Nat} {excess : Fault} {s : List Char} :
    readMagnitude limit excess s = .ok n ↔ IsNumeral s n ∧ n ≤ limit := by
  cases s with
  | nil => exact ⟨nofun, fun h => absurd rfl h.1.ne_nil⟩
  | cons c s =>
    rw [readMagnitude, readDigits_eq_ok_iff (Nat.zero_le limit)]
    · exact ⟨fun ⟨hdigits, hvalue, hlimit⟩ => ⟨⟨List.cons_ne_nil _ _, hdigits, hvalue⟩, hlimit⟩,
        fun ⟨h, hlimit⟩ => ⟨h.isDigit, h.value, hlimit⟩⟩
    · exact List.cons_ne_nil _ _

/-- A numeral has no sign. -/
theorem not_isNumeral_cons {c : Char} {s : List Char} {n : Nat} (hc : c.isDigit = false) :
    ¬ IsNumeral (c :: s) n := by
  intro h
  simp [h.isDigit c List.mem_cons_self] at hc

theorem not_spellsNat_minus {s : List Char} {n : Nat} : ¬ SpellsNat n ('-' :: s) := by
  rintro ⟨h⟩
  exact not_isNumeral_cons (by decide) h

/-! ## Numbers -/

theorem readUnsigned_eq_ok_iff {limit n : Nat} {s : List Char} :
    readUnsigned limit s = .ok n ↔ SpellsNat n s ∧ n ≤ limit := by
  constructor
  · intro h
    unfold readUnsigned at h
    split at h
    · cases h
    · obtain ⟨hs, hlimit⟩ := readMagnitude_eq_ok_iff.mp h
      exact ⟨.plus hs, hlimit⟩
    · obtain ⟨hs, hlimit⟩ := readMagnitude_eq_ok_iff.mp h
      exact ⟨.bare hs, hlimit⟩
  · rintro ⟨hs, hlimit⟩
    cases hs with
    | plus h => exact readMagnitude_eq_ok_iff.mpr ⟨h, hlimit⟩
    | bare h =>
      unfold readUnsigned
      split
      · exact absurd rfl h.ne_nil
      · exact absurd h (not_isNumeral_cons (by decide))
      · exact readMagnitude_eq_ok_iff.mpr ⟨h, hlimit⟩

theorem readSigned_minus (limit : Nat) (s : List Char) :
    readSigned limit ('-' :: s) =
      (readMagnitude (limit + 1) .tooSmall s).map fun v : Nat => -(v : Int) := by
  rw [readSigned]
  cases readMagnitude (limit + 1) .tooSmall s <;> rfl

theorem readSigned_of_ne_minus {s : List Char} (limit : Nat) (h : ∀ rest, s ≠ '-' :: rest) :
    readSigned limit s = (readUnsigned limit s).map fun v : Nat => (v : Int) := by
  rw [readSigned]
  · cases readUnsigned limit s <;> rfl
  · exact h

theorem readSigned_eq_ok_iff {limit : Nat} {n : Int} {s : List Char} :
    readSigned limit s = .ok n ↔ SpellsInt n s ∧ -(limit : Int) - 1 ≤ n ∧ n ≤ limit := by
  by_cases hminus : ∃ rest, s = '-' :: rest
  · obtain ⟨digits, rfl⟩ := hminus
    rw [readSigned_minus, map_eq_ok]
    constructor
    · rintro ⟨v, hread, rfl⟩
      obtain ⟨hs, hlimit⟩ := readMagnitude_eq_ok_iff.mp hread
      exact ⟨.minus hs rfl, by omega, by omega⟩
    · rintro ⟨hs, hlow, hhigh⟩
      cases hs with
      | nat h => exact absurd h not_spellsNat_minus
      | minus h hv => exact ⟨_, readMagnitude_eq_ok_iff.mpr ⟨h, by omega⟩, hv.symm⟩
  · rw [readSigned_of_ne_minus limit (not_exists.mp hminus), map_eq_ok]
    constructor
    · rintro ⟨v, hread, rfl⟩
      obtain ⟨hs, hlimit⟩ := readUnsigned_eq_ok_iff.mp hread
      exact ⟨.nat hs rfl, by omega, by omega⟩
    · rintro ⟨hs, hlow, hhigh⟩
      cases hs with
      | nat h hv => exact ⟨_, readUnsigned_eq_ok_iff.mpr ⟨h, by omega⟩, hv.symm⟩
      | minus h => exact absurd ⟨_, rfl⟩ hminus

/-! ## Words -/

/-- **Reading accepts the texts that spell a word.** -/
theorem readUInt64_eq_ok_iff {s : List Char} {n : UInt64} :
    readUInt64 s = .ok n ↔ SpellsNat n.toNat s := by
  have hlimit := n.toNat_lt
  have hsize : UInt64.size - 1 = 2 ^ 64 - 1 := rfl
  rw [readUInt64, map_eq_ok]
  constructor
  · rintro ⟨v, hread, rfl⟩
    obtain ⟨hs, hv⟩ := readUnsigned_eq_ok_iff.mp hread
    rwa [UInt64.toNat_ofNat_of_lt' (by omega)]
  · intro h
    exact ⟨n.toNat, readUnsigned_eq_ok_iff.mpr ⟨h, by omega⟩, UInt64.ofNat_toNat⟩

/-- Signed words, too. -/
theorem readInt64_eq_ok_iff {s : List Char} {n : Int64} :
    readInt64 s = .ok n ↔ SpellsInt n.toInt s := by
  have hlow := n.le_toInt
  have hhigh := n.toInt_lt
  have hlimit : ((Nat.pow 2 63 - 1 : Nat) : Int) = 2 ^ 63 - 1 := by decide
  rw [readInt64, map_eq_ok]
  constructor
  · rintro ⟨v, hread, rfl⟩
    obtain ⟨hs, hv⟩ := readSigned_eq_ok_iff.mp hread
    rwa [Int64.toInt_ofInt_of_le (by omega) (by omega)]
  · intro h
    exact ⟨n.toInt, readSigned_eq_ok_iff.mpr ⟨h, by omega, by omega⟩, Int64.ofInt_toInt n⟩

end Integer

end RackTraffic
