import Mathlib.Data.Nat.Basic
import RackTraffic.Text.Integer

/-!
# Integers are read back as they are written

A text of digits whose value is within the limit is read as that value (`readDigits_eq_ok`), and the
digits that an unsigned word is written with are such a text. So reading undoes writing
(`readUInt64_ofUInt64`, `readInt64_ofInt64`), and different words are written differently
(`ofUInt64_injective`).
-/

namespace RackTraffic.Integer

open Nat (ofDigitChars)

/-! ## Digits -/

/-- A value only grows with the digits that follow it. -/
theorem le_ofDigitChars (s : List Char) (v : Nat) : v ≤ ofDigitChars 10 s v := by
  induction s generalizing v with
  | nil => simp
  | cons c s ih =>
    rw [Nat.ofDigitChars_cons]
    exact Nat.le_trans (by omega) (ih _)

theorem readDigits_eq_ok (limit : Nat) (excess : Fault) (s : List Char) (v : Nat)
    (hdigit : ∀ c ∈ s, c.isDigit) (hlimit : ofDigitChars 10 s v ≤ limit) :
    readDigits limit excess v s = .ok (ofDigitChars 10 s v) := by
  induction s generalizing v with
  | nil => simp [readDigits]
  | cons c s ih =>
    have hw : 10 * v + (c.toNat - '0'.toNat) ≤ limit :=
      Nat.le_trans (le_ofDigitChars s _) (by rwa [Nat.ofDigitChars_cons] at hlimit)
    rw [readDigits, if_pos (hdigit c (by simp))]
    simp only [hw, if_true]
    rw [Nat.ofDigitChars_cons] at hlimit ⊢
    exact ih _ (fun x hx => hdigit x (by simp [hx])) hlimit

/-! ## Numbers -/

theorem ofNat_ne_nil (n : Nat) : ofNat n ≠ [] := Nat.toDigits_ne_nil

/-- A number is written with digits alone. -/
theorem isDigit_of_mem_ofNat {n : Nat} {c : Char} (h : c ∈ ofNat n) : c.isDigit :=
  Nat.isDigit_of_mem_toDigits (by decide) (by decide) h

/-- The text of a number starts with a digit, so no sign is taken from it. -/
theorem exists_ofNat_eq_cons {x : Char} (hx : x.isDigit = false) (n : Nat) :
    ∃ c rest, ofNat n = c :: rest ∧ c ≠ x := by
  obtain ⟨c, rest, h⟩ := List.exists_cons_of_ne_nil (ofNat_ne_nil n)
  refine ⟨c, rest, h, ?_⟩
  rintro rfl
  simp [isDigit_of_mem_ofNat (n := n) (c := c) (by simp [h])] at hx

theorem readMagnitude_ofNat {n limit : Nat} (excess : Fault) (h : n ≤ limit) :
    readMagnitude limit excess (ofNat n) = .ok n := by
  have hread : readDigits limit excess 0 (ofNat n) = .ok n := by
    rw [readDigits_eq_ok _ _ _ _ fun c => isDigit_of_mem_ofNat]
    · simp [ofNat]
    · simpa [ofNat] using h
  obtain ⟨c, rest, hs⟩ := List.exists_cons_of_ne_nil (ofNat_ne_nil n)
  rw [hs] at hread ⊢
  exact hread

theorem readUnsigned_ofNat {n limit : Nat} (h : n ≤ limit) :
    readUnsigned limit (ofNat n) = .ok n := by
  obtain ⟨c, rest, hs, hc⟩ := exists_ofNat_eq_cons (x := '+') (by decide) n
  have hread := readMagnitude_ofNat .tooLarge h
  rw [hs] at hread ⊢
  simpa [readUnsigned, hc] using hread

/-- A number with its sign is read back, if it is within the limits. -/
theorem readSigned_ofInt {n : Int} {limit : Nat} (hlow : -(limit : Int) - 1 ≤ n)
    (hhigh : n ≤ limit) : readSigned limit (ofInt n) = .ok n := by
  unfold ofInt
  split_ifs with hneg
  · have hread : readMagnitude (limit + 1) .tooSmall (ofNat n.natAbs) = .ok n.natAbs :=
      readMagnitude_ofNat .tooSmall (by omega)
    calc readSigned limit ('-' :: ofNat n.natAbs)
        = .ok (-(n.natAbs : Int)) := by simp [readSigned, hread, Except.map]
      _ = .ok n := congrArg _ (by omega)
  · obtain ⟨c, rest, hs, hc⟩ := exists_ofNat_eq_cons (x := '-') (by decide) n.natAbs
    have hread : readUnsigned limit (ofNat n.natAbs) = .ok n.natAbs :=
      readUnsigned_ofNat (by omega)
    rw [hs] at hread ⊢
    calc readSigned limit (c :: rest)
        = .ok (n.natAbs : Int) := by simp [readSigned, hc, hread, Except.map]
      _ = .ok n := congrArg _ (by omega)

/-! ## Words -/

theorem ofUInt64_ne_nil (n : UInt64) : ofUInt64 n ≠ [] := ofNat_ne_nil n.toNat

/-- A word is written with digits alone. -/
theorem isDigit_of_mem_ofUInt64 {n : UInt64} {c : Char} (h : c ∈ ofUInt64 n) : c.isDigit :=
  isDigit_of_mem_ofNat h

/-- A text of digits has none of the other characters. -/
theorem ne_of_mem_ofUInt64 {n : UInt64} {c x : Char} (h : c ∈ ofUInt64 n) (hx : x.isDigit = false) :
    c ≠ x := by
  rintro rfl
  simp [isDigit_of_mem_ofUInt64 h] at hx

/-- Twenty digits are enough for a word. -/
theorem length_ofUInt64_le (n : UInt64) : (ofUInt64 n).length ≤ 20 :=
  (Nat.length_toDigits_le_iff (by decide) (by decide)).mpr
    (lt_trans n.toNat_lt (by decide))

/-- **Reading undoes writing.** -/
theorem readUInt64_ofUInt64 (n : UInt64) : readUInt64 (ofUInt64 n) = .ok n := by
  have hn : n.toNat ≤ UInt64.size - 1 := Nat.le_sub_one_of_lt n.toNat_lt
  rw [readUInt64, ofUInt64, readUnsigned_ofNat hn]
  simp [Except.map]

theorem ofUInt64_injective {m n : UInt64} (h : ofUInt64 m = ofUInt64 n) : m = n := by
  have hread : (Except.ok m : Except Fault UInt64) = .ok n := by
    rw [← readUInt64_ofUInt64, ← readUInt64_ofUInt64, h]
  exact Except.ok.inj hread

/-- A signed word is written with digits and perhaps a minus sign. -/
theorem isDigit_or_eq_of_mem_ofInt64 {n : Int64} {c : Char} (h : c ∈ ofInt64 n) :
    c.isDigit ∨ c = '-' := by
  unfold ofInt64 ofInt at h
  split_ifs at h
  · rcases List.mem_cons.mp h with rfl | h
    · exact .inr rfl
    · exact .inl (isDigit_of_mem_ofNat h)
  · exact .inl (isDigit_of_mem_ofNat h)

/-- Signed words are read back, too. -/
theorem readInt64_ofInt64 (n : Int64) : readInt64 (ofInt64 n) = .ok n := by
  have hlow := n.le_toInt
  have hhigh := n.toInt_lt
  have hlimit : ((Nat.pow 2 63 - 1 : Nat) : Int) = 2 ^ 63 - 1 := by decide
  rw [readInt64, ofInt64, readSigned_ofInt (by omega) (by omega)]
  simp [Except.map]

end RackTraffic.Integer
