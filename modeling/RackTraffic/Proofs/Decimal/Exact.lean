import Mathlib

/-!
# Integers as floats

An integer below `2 ^ 53` is a float, and its significand as a float has all 53 bits (`unpacked`).
Shifting out bits that are not set loses nothing (`shiftRight_mul_pow`), so any power of two can be
moved from the exponent of such an integer to its significand, and rounding gives the same integer
(`normalize_mul_pow`). Sums and products come down to that: as long as they stay below the bound,
floats are added and multiplied as words are (`toFloat_add`, `toFloat_mul`). No integer up to the
bound is rounded on the way to a float and back (`roundFloat_eq`).
-/

namespace RackTraffic.Decimal

open Float.Model UnpackedFloat

/-- All integers up to this one are floats. -/
def exactRange : Nat := 2 ^ 53

/-! ## Shifting -/

theorem shiftRight_mul_pow (m n : Nat) :
    ExtendedMantissa.ofMantissaAndAccuracy (m * 2 ^ n) .exact >>> n =
      ExtendedMantissa.ofMantissaAndAccuracy m .exact := by
  change n.repeat ExtendedMantissa.shiftRightOne ⟨m * 2 ^ n, false, false⟩ = ⟨m, false, false⟩
  -- The last bit to be shifted out stands next to `m`.
  induction n generalizing m with
  | zero => rw [Nat.pow_zero, Nat.mul_one, Nat.repeat]
  | succ n ih =>
    rw [Nat.repeat, Nat.pow_succ', ← Nat.mul_assoc, ih (m * 2), ExtendedMantissa.shiftRightOne,
      Nat.mul_div_cancel _ (by decide), Nat.mul_mod_left]
    rfl

theorem mul_pow_ne_zero {k : Nat} (hk : k ≠ 0) (n : Nat) : k * 2 ^ n ≠ 0 :=
  Nat.mul_ne_zero hk (Nat.two_pow_pos n).ne'

theorem log2_mul_pow {k : Nat} (hk : k ≠ 0) (n : Nat) : (k * 2 ^ n).log2 = k.log2 + n := by
  induction n with
  | zero => rw [Nat.pow_zero, Nat.mul_one, Nat.add_zero]
  | succ n ih =>
    rw [Nat.pow_succ', Nat.mul_left_comm, Nat.log2_two_mul (mul_pow_ne_zero hk n), ih,
      Nat.add_assoc]

section

variable {k : Nat} (hk : k ≠ 0) (hlt : k < exactRange)

/-- The significand of an integer, with all its bits. -/
def significand (k : Nat) : Nat := k * 2 ^ (52 - k.log2)

/-- An integer as a float that has been taken apart. -/
def unpacked (k : Nat) : UnpackedFloat :=
  if h : k = 0 then .zero .positive
  else .finite .positive (significand k) (k.log2 - 52) (Nat.pos_of_ne_zero (mul_pow_ne_zero h _))

include hk

theorem significand_ne_zero : significand k ≠ 0 := mul_pow_ne_zero hk _

theorem unpacked_of_ne_zero :
    unpacked k = .finite .positive (significand k) (k.log2 - 52)
      (Nat.pos_of_ne_zero (significand_ne_zero hk)) :=
  dif_neg hk

theorem targetExponent_mul_pow (n : Nat) (hlog : k.log2 ≤ 52) :
    Format.binary64.targetExponent (totalExponent (k * 2 ^ n) (-n)) = k.log2 - 52 := by
  rw [totalExponent, log2_mul_pow hk, Format.targetExponent,
    show Format.binary64.minExponent = -1074 from rfl,
    show Format.binary64.mantissaBits = 53 from rfl]
  omega

include hlt

theorem log2_le : k.log2 ≤ 52 := Nat.le_of_lt_succ ((Nat.log2_lt hk).mpr hlt)

theorem log2_significand : (significand k).log2 = 52 := by
  rw [significand, log2_mul_pow hk, Nat.add_sub_cancel' (log2_le hk hlt)]

/-! ## Rounding -/

/-- What is shifted out leaves all bits of the significand. -/
theorem shiftToTargetExponent_mul_pow {n : Nat} (hn : 52 - k.log2 ≤ n) :
    shiftToTargetExponent .binary64 (k * 2 ^ n) (-n) .exact =
      (.ofMantissaAndAccuracy (significand k) .exact, (k.log2 : Int) - 52) := by
  have hlog := log2_le hk hlt
  have hshift : ((k.log2 : Int) - 52 - -n).toNat = n - (52 - k.log2) := by omega
  have hbits : k * 2 ^ n = significand k * 2 ^ (n - (52 - k.log2)) := by
    rw [significand, Nat.mul_assoc, ← Nat.pow_add, Nat.add_sub_cancel' hn]
  rw [shiftToTargetExponent, targetExponent_mul_pow hk n hlog, shiftToExponent, hshift, hbits,
    shiftRight_mul_pow]
  exact congrArg (Prod.mk _) (by omega)

theorem roundWithAccuracy_mul_pow {n : Nat} (hn : 52 - k.log2 ≤ n) :
    roundWithAccuracy .binary64 .positive (k * 2 ^ n) (-n) .exact = unpacked k := by
  -- After the first shift there is nothing left to shift a second time.
  have hsecond : shiftToTargetExponent .binary64 (significand k) (k.log2 - 52) .exact =
      (.ofMantissaAndAccuracy (significand k) .exact, (k.log2 : Int) - 52) := by
    have hlog := log2_le hk hlt
    have hexponent : (k.log2 : Int) - 52 = -(52 - k.log2 : Nat) := by omega
    rw [← shiftToTargetExponent_mul_pow hk hlt le_rfl, hexponent, significand]
  rw [roundWithAccuracy, shiftToTargetExponent_mul_pow hk hlt hn]
  simp only [ExtendedMantissa.ofMantissaAndAccuracy, ExtendedMantissa.roundedMantissa,
    ExtendedMantissa.accuracy, Accuracy.roundToNearestEven, hsecond]
  rw [dif_neg (significand_ne_zero hk), unpacked_of_ne_zero hk]

theorem round_mul_pow (n : Nat) :
    UnpackedFloat.round .binary64 .positive (k * 2 ^ n) (-n) = unpacked k := by
  rw [UnpackedFloat.round, targetExponent_mul_pow hk n (log2_le hk hlt), decreaseExponent]
  simp only
  generalize hshift : (-(n : Int) - (k.log2 - 52)).toNat = shift
  rw [Nat.shiftLeft_eq, Nat.mul_assoc, ← Nat.pow_add,
    show -(n : Int) - shift = -(n + shift : Nat) by omega]
  exact roundWithAccuracy_mul_pow hk hlt (by omega)

end

/-- The power of two of an integer does not matter, in whatever way it is written. -/
theorem normalize_mul_pow {k : Nat} (hlt : k < exactRange) (n : Nat) :
    UnpackedFloat.normalize .binary64 (k * 2 ^ n : Nat) (-n) .positive = unpacked k := by
  by_cases hk : k = 0
  · subst hk
    rw [Nat.zero_mul]
    rfl
  · have hpos : k * 2 ^ n ≠ 0 := mul_pow_ne_zero hk n
    have hcompare : compare ((k * 2 ^ n : Nat) : Int) 0 = .gt := Int.compare_eq_gt.mpr (by omega)
    rw [UnpackedFloat.normalize, hcompare]
    exact round_mul_pow hk hlt n

theorem ofNat_eq {k : Nat} (hlt : k < exactRange) :
    UnpackedFloat.ofNat .binary64 k = unpacked k := by
  have h := normalize_mul_pow hlt 0
  rwa [Nat.pow_zero, Nat.mul_one] at h

/-! ## Sums and products -/

theorem zero_add_unpacked (a : Nat) :
    UnpackedFloat.add .binary64 (unpacked 0) (unpacked a) = unpacked a := by
  by_cases ha : a = 0
  · rw [ha]
    rfl
  · rw [unpacked_of_ne_zero ha]
    rfl

theorem add_unpacked_zero (a : Nat) :
    UnpackedFloat.add .binary64 (unpacked a) (unpacked 0) = unpacked a := by
  by_cases ha : a = 0
  · rw [ha]
    rfl
  · rw [unpacked_of_ne_zero ha]
    rfl

theorem zero_mul_unpacked (a : Nat) :
    UnpackedFloat.mul .binary64 (unpacked 0) (unpacked a) = unpacked 0 := by
  by_cases ha : a = 0
  · rw [ha]
    rfl
  · rw [unpacked_of_ne_zero ha]
    rfl

theorem mul_unpacked_zero (a : Nat) :
    UnpackedFloat.mul .binary64 (unpacked a) (unpacked 0) = unpacked 0 := by
  by_cases ha : a = 0
  · rw [ha]
    rfl
  · rw [unpacked_of_ne_zero ha]
    rfl

theorem decreaseExponent_significand {k n : Nat} (hlog : k.log2 ≤ 52) (hn : 52 - k.log2 ≤ n) :
    (decreaseExponent (significand k) (k.log2 - 52) (-n)).1 = k * 2 ^ n := by
  have hpower : 52 - k.log2 + ((k.log2 : Int) - 52 - -n).toNat = n := by omega
  rw [decreaseExponent, Nat.shiftLeft_eq, significand, Nat.mul_assoc, ← Nat.pow_add, hpower]

theorem significand_mul_significand (a b : Nat) :
    significand a * significand b = a * b * 2 ^ ((52 - a.log2) + (52 - b.log2)) := by
  rw [significand, significand, Nat.pow_add]
  ring

theorem log2_add_log2_le {a b : Nat} (ha : a ≠ 0) (hb : b ≠ 0) :
    a.log2 + b.log2 ≤ (a * b).log2 := by
  rw [Nat.le_log2 (Nat.mul_ne_zero ha hb), Nat.pow_add]
  exact Nat.mul_le_mul (Nat.log2_self_le ha) (Nat.log2_self_le hb)

section

variable {a b : Nat}

theorem add_unpacked (h : a + b < exactRange) :
    UnpackedFloat.add .binary64 (unpacked a) (unpacked b) = unpacked (a + b) := by
  by_cases hazero : a = 0
  · rw [hazero, zero_add_unpacked, Nat.zero_add]
  by_cases hbzero : b = 0
  · rw [hbzero, add_unpacked_zero, Nat.add_zero]
  have hloga := log2_le hazero (by omega)
  have hlogb := log2_le hbzero (by omega)
  rw [unpacked_of_ne_zero hazero, unpacked_of_ne_zero hbzero]
  simp only [UnpackedFloat.add]
  -- Both summands are written with the lesser exponent, which is `-n`.
  generalize hn : max (52 - a.log2) (52 - b.log2) = n
  have hmin : min ((a.log2 : Int) - 52) (b.log2 - 52) = -n := by omega
  simp only [hmin, decreaseExponent_significand hloga (n := n) (by omega),
    decreaseExponent_significand hlogb (n := n) (by omega), Sign.apply]
  rw [← Int.natCast_add, ← Nat.add_mul]
  exact normalize_mul_pow h n

theorem mul_unpacked (ha : a < exactRange) (hb : b < exactRange) (h : a * b < exactRange) :
    UnpackedFloat.mul .binary64 (unpacked a) (unpacked b) = unpacked (a * b) := by
  by_cases hazero : a = 0
  · rw [hazero, zero_mul_unpacked, Nat.zero_mul]
  by_cases hbzero : b = 0
  · rw [hbzero, mul_unpacked_zero, Nat.mul_zero]
  have hloga := log2_le hazero ha
  have hlogb := log2_le hbzero hb
  have hlog := log2_add_log2_le hazero hbzero
  have hexponent : (a.log2 : Int) - 52 + (b.log2 - 52) =
      -((52 - a.log2) + (52 - b.log2) : Nat) := by omega
  rw [unpacked_of_ne_zero hazero, unpacked_of_ne_zero hbzero]
  simp only [UnpackedFloat.mul]
  rw [significand_mul_significand, hexponent]
  exact roundWithAccuracy_mul_pow (Nat.mul_ne_zero hazero hbzero) h (by omega)

end

/-! ## Packing -/

theorem toNat_implicit_append {n : Nat} (mantissa : BitVec n) :
    (1#1 ++ mantissa).toNat = 2 ^ n + mantissa.toNat := by
  rw [BitVec.toNat_append, ← Nat.shiftLeft_add_eq_or_of_lt mantissa.isLt, Nat.shiftLeft_eq,
    BitVec.toNat_ofNat, Nat.mod_eq_of_lt (by decide), Nat.one_mul]

section

variable {k : Nat} (hk : k ≠ 0) (hlt : k < exactRange)
include hk hlt

/-- The exponent of an integer as it is stored. -/
def storedExponent (k : Nat) : BitVec 11 := .ofNat 11 (k.log2 + 1023)

theorem toNat_storedExponent : (storedExponent k).toNat = k.log2 + 1023 := by
  have hlog := log2_le hk hlt
  rw [storedExponent, BitVec.toNat_ofNat]
  omega

theorem pack_unpacked :
    UnpackedFloat.pack .binary64 (unpacked k) =
      packComponents .binary64 .positive (storedExponent k) (.ofNat 52 (significand k)) := by
  have hlog := log2_le hk hlt
  have hnormal : (significand k).log2 + 1 = Format.binary64.mantissaBits := by
    rw [log2_significand hk hlt]
    rfl
  have hexponent : ((k.log2 : Int) - 52 + Format.binary64.exponentBias +
      Format.binary64.mantissaBitsWithoutImplicit).toNat = k.log2 + 1023 := by
    change ((k.log2 : Int) - 52 + (1023 : Nat) + (52 : Nat)).toNat = k.log2 + 1023
    omega
  rw [unpacked_of_ne_zero hk, UnpackedFloat.pack.eq_def]
  dsimp only
  rw [hexponent, if_neg (by omega), if_pos hnormal]
  rfl

end

/-- Integers are still the same after they have been stored. -/
theorem unpack_pack {k : Nat} (hlt : k < exactRange) :
    UnpackedFloat.unpack .binary64 (UnpackedFloat.pack .binary64 (unpacked k)) = unpacked k := by
  by_cases hk : k = 0
  · subst hk
    rfl
  have hlog := log2_le hk hlt
  have hbits := log2_significand hk hlt
  have hpos := significand_ne_zero hk
  have hexponent := toNat_storedExponent hk hlt
  have hzero : storedExponent k ≠ 0#11 := fun h => by
    rw [h] at hexponent
    exact absurd hexponent (by simp)
  have hones : storedExponent k ≠ -1#11 := fun h => by
    rw [h, show (-1#11).toNat = 2047 from rfl] at hexponent
    omega
  -- The leading bit of the significand is not stored.
  have hlow : 2 ^ 52 ≤ significand k := hbits ▸ Nat.log2_self_le hpos
  have hhigh : significand k < 2 ^ 53 := (Nat.log2_lt hpos).mp (by omega)
  have hmantissa : (1#1 ++ BitVec.ofNat 52 (significand k)).toNat = significand k := by
    rw [toNat_implicit_append, BitVec.toNat_ofNat]
    omega
  rw [pack_unpacked hk hlt, UnpackedFloat.unpack.eq_def]
  simp only [unpackMantissa_packComponents, unpackExponent_packComponents,
    unpackSign_packComponents]
  rw [if_neg hones, if_neg hzero]
  have hvalue : ((k.log2 + 1023 : Nat) : Int) - (Format.binary64.exponentBias + (52 : Nat)) =
      k.log2 - 52 := by
    rw [show Format.binary64.exponentBias = 1023 from rfl]
    omega
  simp only [hmantissa, hexponent, hvalue]
  exact (unpacked_of_ne_zero hk).symm

/-! ## Words as floats -/

theorem unpack_toFloat {a : UInt64} (h : a.toNat < exactRange) :
    a.toFloat.toModel.unpack = unpacked a.toNat := by
  change UnpackedFloat.unpack .binary64
    (UnpackedFloat.pack .binary64 (UnpackedFloat.ofNat .binary64 a.toNat)) = _
  rw [ofNat_eq h, unpack_pack h]

theorem toFloat_add {a b : UInt64} (h : a.toNat + b.toNat < exactRange) :
    (a + b).toFloat = a.toFloat + b.toFloat := by
  have hsum : (a + b).toNat = a.toNat + b.toNat := by
    rw [UInt64.toNat_add]
    exact Nat.mod_eq_of_lt (h.trans (by decide))
  change Float.ofModel (.pack (UnpackedFloat.ofNat .binary64 (a + b).toNat)) =
    .ofModel (.pack (UnpackedFloat.add .binary64 a.toFloat.toModel.unpack b.toFloat.toModel.unpack))
  rw [unpack_toFloat (a := a) (by omega), unpack_toFloat (a := b) (by omega), add_unpacked h, hsum,
    ofNat_eq h]

theorem toFloat_mul {a b : UInt64} (ha : a.toNat < exactRange) (hb : b.toNat < exactRange)
    (h : a.toNat * b.toNat < exactRange) : (a * b).toFloat = a.toFloat * b.toFloat := by
  have hproduct : (a * b).toNat = a.toNat * b.toNat := by
    rw [UInt64.toNat_mul]
    exact Nat.mod_eq_of_lt (h.trans (by decide))
  change Float.ofModel (.pack (UnpackedFloat.ofNat .binary64 (a * b).toNat)) =
    .ofModel (.pack (UnpackedFloat.mul .binary64 a.toFloat.toModel.unpack b.toFloat.toModel.unpack))
  rw [unpack_toFloat ha, unpack_toFloat hb, mul_unpacked ha hb h, hproduct, ofNat_eq h]

theorem toFloat_toUInt64 (a : UInt32) : a.toUInt64.toFloat = a.toFloat := rfl

/-- An integer as the nearest float, which is an integer again. -/
def roundFloat (k : Nat) : Nat := (UInt64.ofNat k).toFloat.toUInt64.toNat

theorem toInt_unpacked {k : Nat} (hlt : k < exactRange) (low high : Int) :
    (unpacked k).toInt low high = k := by
  by_cases hk : k = 0
  · subst hk
    rfl
  have hlog := log2_le hk hlt
  have hdecrease : decreaseExponent (significand k) (k.log2 - 52) 0 =
      (significand k, (k.log2 : Int) - 52) := by
    rw [decreaseExponent, show ((k.log2 : Int) - 52 - 0).toNat = 0 by omega]
    exact congrArg (Prod.mk _) (Int.sub_zero _)
  have hshift : (0 - ((k.log2 : Int) - 52)).toNat = 52 - k.log2 := by omega
  rw [unpacked_of_ne_zero hk]
  simp only [UnpackedFloat.toInt, roundToInt, hdecrease, shiftToExponent, hshift]
  rw [significand, shiftRight_mul_pow]
  rfl

theorem roundFloat_eq {k : Nat} (hle : k ≤ exactRange) : roundFloat k = k := by
  rcases hle.lt_or_eq with hlt | rfl
  · have hword : (UInt64.ofNat k).toNat = k := UInt64.toNat_ofNat_of_lt' (hlt.trans (by decide))
    have hunpacked := unpack_toFloat (hword.symm ▸ hlt)
    rw [hword] at hunpacked
    change (UInt64.ofNatClamp
      ((UInt64.ofNat k).toFloat.toModel.unpack.toInt 0 (UInt64.size - 1)).toNat).toNat = k
    rw [hunpacked, toInt_unpacked hlt, Int.toNat_natCast]
    exact UInt64.toNat_ofNatClamp_of_lt (hlt.trans (by decide))
  · decide +kernel

end RackTraffic.Decimal
