import RackTraffic.Proofs.Scenario.Check
import RackTraffic.Proofs.Scenario.Guarded

/-!
# Numbers enumerate the pairs of racks

A pair of racks is numbered by two digits: its number divided by the number of other racks is the
source, and what remains is the destination, counted past the source. A larger number has a larger
first digit, or the same one and a larger second digit (`div_lt_or_mod_lt`), and counting past a gap
keeps the order (`skip_lt_skip`) and leaves out nothing else (`exists_skip_eq`).

**Theorem (`ScenarioShape.nthPair_enumerates`).** The numbers below the number of pairs stand for
ordered pairs of different racks in lexicographic order, and all of them do if there are no more
pairs than can be counted. On the way to a pair no word wraps around and none is divided by zero.
-/

namespace RackTraffic

/-! ## Digits -/

/-- Numbers are ordered by their quotients first and then by their remainders. -/
theorem div_lt_or_mod_lt {i j : Nat} (h : i < j) (m : Nat) :
    i / m < j / m ∨ i / m = j / m ∧ i % m < j % m := by
  rcases (Nat.div_le_div_right h.le : i / m ≤ j / m).lt_or_eq with hlt | heq
  · exact .inl hlt
  · refine .inr ⟨heq, ?_⟩
    have hi := Nat.div_add_mod i m
    have hj := Nat.div_add_mod j m
    rw [heq] at hi
    omega

theorem skip_lt_skip (gap : Nat) {k l : Nat} (h : k < l) : skip gap k < skip gap l := by
  unfold skip
  split_ifs <;> omega

/-- Everything but the gap is counted. -/
theorem exists_skip_eq {gap k n : Nat} (hgap : gap < n) (hk : k < n) (hne : k ≠ gap) :
    ∃ l < n - 1, skip gap l = k := by
  rcases Nat.lt_or_gt_of_ne hne with hlt | hgt
  · exact ⟨k, by omega, if_neg (by omega)⟩
  · refine ⟨k - 1, by omega, ?_⟩
    rw [skip, if_pos (by omega)]
    omega

/-! ## Pairs -/

/-- An ordered pair of different racks among `n` racks. -/
structure IsRackPair (n : UInt64) (pair : Rack × Rack) : Prop where
  source_lt : pair.1.index < n
  destination_lt : pair.2.index < n
  ne : pair.1 ≠ pair.2

/-- A rack comes before the racks with larger indices. -/
def Rack.Before (a b : Rack) : Prop := a.index < b.index

/-- Pairs of racks in lexicographic order. -/
def PairBefore (pair other : Rack × Rack) : Prop := Prod.Lex Rack.Before Rack.Before pair other

variable {n : UInt64} {i j : Nat} {pair other : Rack × Rack}

theorem Rack.eq_iff_toNat {a b : Rack} : a = b ↔ a.index.toNat = b.index.toNat := by
  rw [UInt64.toNat_inj, Rack.mk.injEq]

theorem pairBefore_iff : PairBefore pair other ↔
    pair.1.index.toNat < other.1.index.toNat ∨
      pair.1.index.toNat = other.1.index.toNat ∧ pair.2.index.toNat < other.2.index.toNat := by
  rw [PairBefore, Prod.lex_def, Rack.Before, Rack.Before, Rack.eq_iff_toNat, UInt64.lt_iff_toNat_lt,
    UInt64.lt_iff_toNat_lt]

theorem isRackPair_nthPair (hword : i < UInt64.size) (hi : i < n.toNat * (n.toNat - 1)) :
    IsRackPair n (nthPair n (.ofNat i)) where
  source_lt := (nthPair_lt hword hi).1
  destination_lt := (nthPair_lt hword hi).2
  ne := nthPair_ne hword hi

/-- Larger numbers stand for later pairs. -/
theorem nthPair_before (hij : i < j) (hword : j < UInt64.size) (hj : j < n.toNat * (n.toNat - 1)) :
    PairBefore (nthPair n (.ofNat i)) (nthPair n (.ofNat j)) := by
  obtain ⟨hsource, hdestination⟩ := nthPair_toNat (hij.trans hword) (hij.trans hj)
  obtain ⟨hsource', hdestination'⟩ := nthPair_toNat hword hj
  rw [pairBefore_iff, hsource, hsource', hdestination, hdestination']
  rcases div_lt_or_mod_lt hij (n.toNat - 1) with hlt | ⟨heq, hlt⟩
  · exact .inl hlt
  · refine .inr ⟨heq, ?_⟩
    rw [heq]
    exact skip_lt_skip _ hlt

/-- Every pair has a number, though maybe one that is too large for a word. -/
theorem IsRackPair.exists_number (h : IsRackPair n pair) :
    ∃ i < n.toNat * (n.toNat - 1), i < UInt64.size → nthPair n (.ofNat i) = pair := by
  have hsource : pair.1.index.toNat < n.toNat := UInt64.lt_iff_toNat_lt.mp h.source_lt
  have hdestination : pair.2.index.toNat < n.toNat := UInt64.lt_iff_toNat_lt.mp h.destination_lt
  have hne : pair.2.index.toNat ≠ pair.1.index.toNat :=
    fun heq => h.ne (Rack.eq_iff_toNat.mpr heq.symm)
  obtain ⟨rest, hrest, hskip⟩ := exists_skip_eq hsource hdestination hne
  have hrange : rest + (n.toNat - 1) * pair.1.index.toNat < n.toNat * (n.toNat - 1) :=
    calc rest + (n.toNat - 1) * pair.1.index.toNat
        < (n.toNat - 1) * (pair.1.index.toNat + 1) := by rw [Nat.mul_succ]; omega
      _ ≤ (n.toNat - 1) * n.toNat := Nat.mul_le_mul_left _ hsource
      _ = n.toNat * (n.toNat - 1) := Nat.mul_comm _ _
  refine ⟨_, hrange, fun hword => ?_⟩
  obtain ⟨hdiv, hmod⟩ := (Nat.div_mod_unique (Nat.zero_lt_of_lt hrest)).mpr ⟨rfl, hrest⟩
  obtain ⟨hfirst, hsecond⟩ := nthPair_toNat hword hrange
  rw [hdiv] at hfirst
  rw [hdiv, hmod, hskip] at hsecond
  exact Prod.ext (Rack.eq_iff_toNat.mpr hfirst) (Rack.eq_iff_toNat.mpr hsecond)

namespace ScenarioShape

/-! ## Enumerating -/

/-- If the pairs can be counted, each has a number. -/
theorem pairCount_eq_pairTotal {shape : ScenarioShape} (h : shape.pairTotal < UInt64.size) :
    shape.pairCount = shape.pairTotal :=
  Nat.min_eq_left (Nat.le_sub_one_of_lt h)

/-- **Numbers enumerate the pairs of racks.** Below the number of pairs, which stops at the largest
word, a number stands for an ordered pair of different racks, and nothing wraps around or is divided
by zero on the way to it. Larger numbers stand for later pairs in lexicographic order, so different
numbers stand for different pairs. If there are no more pairs than words, then every pair has
exactly one number. -/
theorem nthPair_enumerates (shape : ScenarioShape) :
    (∀ i < shape.pairCount,
      nthPairGuarded shape.rackCount (.ofNat i) = .ok (nthPair shape.rackCount (.ofNat i)) ∧
        IsRackPair shape.rackCount (nthPair shape.rackCount (.ofNat i))) ∧
    (∀ i j, i < j → j < shape.pairCount →
      PairBefore (nthPair shape.rackCount (.ofNat i)) (nthPair shape.rackCount (.ofNat j))) ∧
    (∀ i < shape.pairCount, ∀ j < shape.pairCount,
      nthPair shape.rackCount (.ofNat i) = nthPair shape.rackCount (.ofNat j) → i = j) ∧
    (shape.pairTotal < UInt64.size → ∀ pair, IsRackPair shape.rackCount pair →
      ∃! i, i < shape.pairCount ∧ nthPair shape.rackCount (.ofNat i) = pair) := by
  have hinjective : ∀ i < shape.pairCount, ∀ j < shape.pairCount,
      nthPair shape.rackCount (.ofNat i) = nthPair shape.rackCount (.ofNat j) → i = j := by
    intro i hi j hj heq
    obtain ⟨hword, hrange⟩ := bounds_of_lt_pairCount hi
    obtain ⟨hword', hrange'⟩ := bounds_of_lt_pairCount hj
    exact nthPair_injective hword hrange hword' hrange' heq
  refine ⟨fun i hi => ?_, fun i j hij hj => ?_, hinjective, fun htotal pair hpair => ?_⟩
  · obtain ⟨hword, hrange⟩ := bounds_of_lt_pairCount hi
    exact ⟨nthPairGuarded_eq (two_le_of_lt_mul_pred hrange) _, isRackPair_nthPair hword hrange⟩
  · obtain ⟨hword, hrange⟩ := bounds_of_lt_pairCount hj
    exact nthPair_before hij hword hrange
  · obtain ⟨i, hi, hnumber⟩ := hpair.exists_number
    have hcount : i < shape.pairCount := (pairCount_eq_pairTotal htotal).symm ▸ hi
    have heq := hnumber (hi.trans htotal)
    exact ⟨i, ⟨hcount, heq⟩, fun j ⟨hj, hjeq⟩ => hinjective j hj i hcount (hjeq.trans heq.symm)⟩

/-- A scenario of as many racks as there can be. -/
def mostRacks : ScenarioShape := { rackCount := 18446744073709551615 }

/-- Among three racks every pair has one number. Of the pairs of as many racks as there can be, the
one after those with the first source is the last that has a number. -/
theorem nthPair_enumerates_mostRacks :
    (threeRacks.pairTotal < UInt64.size ∧ IsRackPair threeRacks.rackCount (⟨2⟩, ⟨1⟩) ∧
      ∃! i, i < threeRacks.pairCount ∧ nthPair threeRacks.rackCount (.ofNat i) = (⟨2⟩, ⟨1⟩)) ∧
    mostRacks.pairCount = 18446744073709551615 ∧
    nthPairGuarded mostRacks.rackCount (.ofNat 18446744073709551614) = .ok (⟨1⟩, ⟨0⟩) ∧
    PairBefore (⟨0⟩, ⟨18446744073709551614⟩) (⟨1⟩, ⟨0⟩) := by
  have hcount : mostRacks.pairCount = 18446744073709551615 := by decide +kernel
  have hpair : IsRackPair threeRacks.rackCount (⟨2⟩, ⟨1⟩) := ⟨by decide, by decide, by decide⟩
  have htotal : threeRacks.pairTotal < UInt64.size := by decide
  obtain ⟨-, -, -, hexists⟩ := nthPair_enumerates threeRacks
  obtain ⟨hdefined, hbefore, -, -⟩ := nthPair_enumerates mostRacks
  have hlast : nthPair mostRacks.rackCount (.ofNat 18446744073709551614) = (⟨1⟩, ⟨0⟩) := by
    decide +kernel
  have hlastButOne : nthPair mostRacks.rackCount (.ofNat 18446744073709551613) =
      (⟨0⟩, ⟨18446744073709551614⟩) := by decide +kernel
  refine ⟨⟨htotal, hpair, hexists htotal _ hpair⟩, hcount, ?_, ?_⟩
  · rw [← hlast]
    exact (hdefined _ (by rw [hcount]; decide)).1
  · rw [← hlast, ← hlastButOne]
    exact hbefore _ _ (by decide) (by rw [hcount]; decide)

end ScenarioShape

end RackTraffic
