import Mathlib.Data.Nat.Basic
import RackTraffic.Scenario.Drawing

/-!
# The numbering of rack pairs

Among `n` racks a number below `n * (n - 1)` stands for one ordered pair of different racks: the
quotient by `n - 1` is the source, and the remainder is the destination, counted without the source.
The arithmetic is that of 64-bit words, and on these numbers it never wraps around
(`nthPair_toNat`). Different numbers stand for different pairs (`nthPair_injective`).
-/

namespace RackTraffic

/-! ## Counting past a gap -/

/-- The number `k` counted past a gap: the numbers from `gap` on are one larger. -/
def skip (gap k : Nat) : Nat := if gap ≤ k then k + 1 else k

theorem skip_ne (gap k : Nat) : skip gap k ≠ gap := by
  unfold skip
  split_ifs <;> omega

theorem skip_injective (gap : Nat) {k l : Nat} (h : skip gap k = skip gap l) : k = l := by
  unfold skip at h
  split_ifs at h <;> omega

theorem skip_lt {gap k n : Nat} (h : k < n - 1) : skip gap k < n := by
  unfold skip
  split_ifs <;> omega

/-! ## Pairs of racks -/

/-- There is a pair only if there are two racks. -/
theorem two_le_of_lt_mul_pred {n i : Nat} (h : i < n * (n - 1)) : 2 ≤ n := by
  rcases n with _ | _ | n
  · simp at h
  · simp at h
  · omega

/-- The words of a pair, computed without bounds. -/
theorem nthPair_toNat {n : UInt64} {i : Nat} (hword : i < UInt64.size)
    (hi : i < n.toNat * (n.toNat - 1)) :
    (nthPair n (UInt64.ofNat i)).1.index.toNat = i / (n.toNat - 1) ∧
      (nthPair n (UInt64.ofNat i)).2.index.toNat =
        skip (i / (n.toNat - 1)) (i % (n.toNat - 1)) := by
  have htwo := two_le_of_lt_mul_pred hi
  have hone : (1 : UInt64) ≤ n := UInt64.le_iff_toNat_le.mpr (Nat.le_trans (by decide) htwo)
  have hothers : (n - 1).toNat = n.toNat - 1 := UInt64.toNat_sub_of_le n 1 hone
  have hnumber : (UInt64.ofNat i).toNat = i := UInt64.toNat_ofNat_of_lt' hword
  have hrest : i % (n.toNat - 1) < n.toNat - 1 := Nat.mod_lt _ (by omega)
  refine ⟨by simp [nthPair, hothers, hnumber], ?_⟩
  simp only [nthPair, skip, UInt64.le_iff_toNat_le, UInt64.toNat_div, UInt64.toNat_mod, hothers,
    hnumber]
  split_ifs
  · have hbound : i % (n.toNat - 1) + 1 < UInt64.size :=
      Nat.lt_of_le_of_lt (by omega) n.toNat_lt
    rw [UInt64.toNat_add, UInt64.toNat_mod, hothers, hnumber]
    exact Nat.mod_eq_of_lt hbound
  · rw [UInt64.toNat_mod, hothers, hnumber]

variable {n : UInt64} {i j : Nat}

theorem nthPair_lt (hword : i < UInt64.size) (hi : i < n.toNat * (n.toNat - 1)) :
    (nthPair n (UInt64.ofNat i)).1.index < n ∧ (nthPair n (UInt64.ofNat i)).2.index < n := by
  obtain ⟨hsource, hdestination⟩ := nthPair_toNat hword hi
  have htwo := two_le_of_lt_mul_pred hi
  rw [UInt64.lt_iff_toNat_lt, UInt64.lt_iff_toNat_lt, hsource, hdestination]
  exact ⟨Nat.div_lt_of_lt_mul (by rwa [Nat.mul_comm] at hi), skip_lt (Nat.mod_lt _ (by omega))⟩

theorem nthPair_ne (hword : i < UInt64.size) (hi : i < n.toNat * (n.toNat - 1)) :
    (nthPair n (UInt64.ofNat i)).1 ≠ (nthPair n (UInt64.ofNat i)).2 := by
  obtain ⟨hsource, hdestination⟩ := nthPair_toNat hword hi
  intro heq
  rw [← heq, hsource] at hdestination
  exact skip_ne _ _ hdestination.symm

/-- Different numbers stand for different pairs. -/
theorem nthPair_injective (hi : i < UInt64.size) (hin : i < n.toNat * (n.toNat - 1))
    (hj : j < UInt64.size) (hjn : j < n.toNat * (n.toNat - 1))
    (heq : nthPair n (UInt64.ofNat i) = nthPair n (UInt64.ofNat j)) : i = j := by
  obtain ⟨hsource, hdestination⟩ := nthPair_toNat hi hin
  obtain ⟨hsource', hdestination'⟩ := nthPair_toNat hj hjn
  rw [heq, hsource'] at hsource
  rw [heq, hdestination', hsource] at hdestination
  have hrest := skip_injective _ hdestination
  rw [← Nat.div_add_mod i (n.toNat - 1), ← Nat.div_add_mod j (n.toNat - 1), hsource, hrest]

end RackTraffic
