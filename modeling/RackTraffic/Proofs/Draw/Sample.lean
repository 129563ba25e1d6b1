import Mathlib.Data.List.Perm.Basic
import Mathlib.Data.List.Nodup
import Mathlib.Data.List.Range
import RackTraffic.Draw.Sample

/-!
# Samples have no repetitions

Whatever words a source yields, a sample of `k` numbers below `n` has `k` different numbers below
`n` (`yields_sample`), provided that `k ≤ n`. The words are arbitrary and so is the way that the
sizes select, hence the estimates behind that choice do not matter.

Each way has an invariant of its own:

* *in place*: the array stays a permutation of all numbers, wherever the drawn places lie;
* *one pass*: what has been drawn before candidate `j` are different numbers below `j`, so `j`
  itself is always free to be taken in the place of a number that was drawn before;
* *rejection*: a number is accepted only if it lies below `n` and was not accepted before.
-/

namespace RackTraffic.Draw

variable {σ α β : Type}

/-! ## What draws yield -/

/-- Every value that a draw yields satisfies `p`. Nothing is said of a draw that never ends. -/
def Yields (act : Draw σ α) (p : α → Prop) : Prop := ∀ s a s', act s = some (a, s') → p a

theorem Yields.mono {act : Draw σ α} {p q : α → Prop} (h : Yields act p) (hpq : ∀ a, p a → q a) :
    Yields act q :=
  fun s a s' ha => hpq a (h s a s' ha)

theorem yields_pure {a : α} {p : α → Prop} (h : p a) : Yields (pure a : Draw σ α) p := by
  intro s b s' hb
  obtain ⟨rfl, -⟩ := Prod.mk.inj (Option.some.inj hb)
  exact h

theorem Yields.bind {act : Draw σ α} {f : α → Draw σ β} {p : α → Prop} {q : β → Prop}
    (h : Yields act p) (hf : ∀ a, p a → Yields (f a) q) : Yields (act >>= f) q := by
  intro s b s' hb
  obtain ⟨⟨a, t⟩, ha, hb⟩ := Option.bind_eq_some_iff.mp hb
  exact hf a (h s a t ha) t b s' hb

theorem Yields.map {act : Draw σ α} {f : α → β} {q : β → Prop}
    (h : Yields act fun a => q (f a)) : Yields (f <$> act) q := by
  intro s b s' hb
  obtain ⟨⟨a, t⟩, ha, hb⟩ := Option.bind_eq_some_iff.mp hb
  obtain ⟨rfl, -⟩ := Prod.mk.inj (Option.some.inj hb)
  exact h s a t ha

/-- The first accepted value is an accepted one. -/
theorem Trials.yields_first {ω : Type} {trials : Trials σ ω α} {p : α → Prop}
    (h : ∀ w a, trials.accept w = some a → p a) : Yields trials.first p := by
  intro s a s' ha
  refine Trials.first.partial_correctness trials (fun _ r => p r.1) ?_ s (a, s') ha
  intro rest ih t r hr
  cases hw : trials.accept (trials.next t).1 with
  | some b =>
    simp only [hw, Option.some.injEq] at hr
    subst hr
    exact h _ _ hw
  | none =>
    simp only [hw] at hr
    exact ih _ r hr

variable [WordSource σ]

theorem yields_until32 {accept : UInt32 → Option α} {p : α → Prop}
    (h : ∀ w a, accept w = some a → p a) : Yields (until32 accept : Draw σ α) p :=
  Trials.yields_first h

theorem yields_until64 {accept : UInt64 → Option α} {p : α → Prop}
    (h : ∀ w a, accept w = some a → p a) : Yields (until64 accept : Draw σ α) p :=
  Trials.yields_first h

theorem yields_range {low high : Nat} (hle : low ≤ high) :
    Yields (range low high : Draw σ Nat) fun v => low ≤ v ∧ v ≤ high := by
  refine Yields.map (yields_until32 fun w v hv => ?_)
  have hlt : v < high - low + 1 := lt_of_scale?_eq_some (Nat.succ_pos _) w.toNat_lt hv
  omega

/-! ## Samples -/

/-- A list is a sample of `amount` numbers below `population`: they are all different. -/
structure IsSample (population amount : Nat) (drawn : List Nat) : Prop where
  length_eq : drawn.length = amount
  nodup : drawn.Nodup
  lt : ∀ v ∈ drawn, v < population

theorem isSample_nil (population : Nat) : IsSample population 0 [] :=
  ⟨rfl, List.nodup_nil, by simp⟩

theorem IsSample.perm {population amount : Nat} {drawn other : List Nat}
    (h : IsSample population amount drawn) (hp : other.Perm drawn) :
    IsSample population amount other where
  length_eq := hp.length_eq.trans h.length_eq
  nodup := hp.nodup_iff.mpr h.nodup
  lt v hv := h.lt v (hp.mem_iff.mp hv)

/-! ## In place -/

theorem swapIfInBounds_perm (a : Array α) (i j : Nat) :
    (a.swapIfInBounds i j).toList.Perm a.toList := by
  rw [Array.swapIfInBounds_def]
  split_ifs with hi hj
  · exact Array.perm_iff_toList_perm.mp (Array.swap_perm hi hj)
  · rfl
  · rfl

theorem yields_shuffleFront (steps i : Nat) (a : Array Nat) :
    Yields (shuffleFront steps i a : Draw σ (Array Nat)) fun b => b.toList.Perm a.toList := by
  induction steps generalizing i a with
  | zero => exact yields_pure (List.Perm.refl _)
  | succ steps ih =>
    refine Yields.bind (p := fun _ => True) (fun _ _ _ _ => trivial) fun j _ => ?_
    exact (ih (i + 1) (a.swapIfInBounds i j)).mono fun b hb => hb.trans (swapIfInBounds_perm a i j)

theorem yields_sampleInPlace {population amount : Nat} (hle : amount ≤ population) :
    Yields (sampleInPlace population amount : Draw σ (List Nat)) (IsSample population amount) := by
  refine Yields.bind (yields_shuffleFront amount 0 (Array.range population)) fun a ha => ?_
  rw [Array.toList_range] at ha
  refine yields_pure ⟨?_, ?_, fun v hv => ?_⟩
  · rw [List.length_take, ha.length_eq, List.length_range, Nat.min_eq_left hle]
  · exact (ha.nodup_iff.mpr List.nodup_range).sublist (List.take_sublist amount a.toList)
  · exact List.mem_range.mp (ha.mem_iff.mp (List.mem_of_mem_take hv))

/-! ## One pass -/

/-- The number that is taken at candidate `j` if `t` was drawn. -/
def taken (drawn : List Nat) (j t : Nat) : Nat := if t ∈ drawn then j else t

theorem insertBefore_perm {mark x : Nat} {l : List Nat} (h : mark ∈ l) :
    (insertBefore mark x l).Perm (x :: l) := by
  induction l with
  | nil => cases h
  | cons y rest ih =>
    rw [insertBefore]
    split_ifs with hy
    · rfl
    · have hrest : mark ∈ rest := (List.mem_cons.mp h).resolve_left (Ne.symm hy)
      exact ((ih hrest).cons y).trans (List.Perm.swap x y rest)

theorem placeInside_perm (drawn : List Nat) (j t : Nat) :
    (placeInside drawn j t).Perm (taken drawn j t :: drawn) := by
  unfold placeInside taken
  split_ifs with h
  · exact insertBefore_perm h
  · exact List.perm_append_singleton t drawn

theorem placeLast_perm (drawn : List Nat) (j t : Nat) :
    (placeLast drawn j t).Perm (taken drawn j t :: drawn) :=
  List.perm_append_singleton (taken drawn j t) drawn

/-- Candidate `j` adds a number that is not among those drawn before it. -/
theorem IsSample.cons_taken {j t amount : Nat} {drawn : List Nat} (h : IsSample j amount drawn)
    (ht : t ≤ j) : IsSample (j + 1) (amount + 1) (taken drawn j t :: drawn) := by
  have hj : j ∉ drawn := fun hmem => Nat.lt_irrefl j (h.lt j hmem)
  refine ⟨by simp [h.length_eq], List.nodup_cons.mpr ⟨?_, h.nodup⟩, fun v hv => ?_⟩
  · unfold taken
    split_ifs with hmem
    · exact hj
    · exact hmem
  · rcases List.mem_cons.mp hv with rfl | hv
    · unfold taken
      split_ifs <;> omega
    · exact Nat.lt_succ_of_lt (h.lt v hv)

theorem yields_onePass {place : List Nat → Nat → Nat → List Nat}
    (hplace : ∀ drawn j t, (place drawn j t).Perm (taken drawn j t :: drawn))
    (steps j amount : Nat) {drawn : List Nat} (h : IsSample j amount drawn) :
    Yields (onePass place steps j drawn : Draw σ (List Nat))
      (IsSample (j + steps) (amount + steps)) := by
  induction steps generalizing j amount drawn with
  | zero => exact yields_pure h
  | succ steps ih =>
    refine Yields.bind (yields_range (Nat.zero_le j)) fun t ht => ?_
    have hnext : IsSample (j + 1) (amount + 1) (place drawn j t) :=
      (h.cons_taken ht.2).perm (hplace drawn j t)
    have := ih (j + 1) (amount + 1) hnext
    rwa [Nat.add_right_comm j 1 steps, Nat.add_right_comm amount 1 steps] at this

theorem yields_shuffleBack (i : Nat) (a : Array Nat) :
    Yields (shuffleBack i a : Draw σ (Array Nat)) fun b => b.toList.Perm a.toList := by
  induction i generalizing a with
  | zero => exact yields_pure (List.Perm.refl _)
  | succ i ih =>
    refine Yields.bind (p := fun _ => True) (fun _ _ _ _ => trivial) fun j _ => ?_
    exact (ih (a.swapIfInBounds (i + 1) j)).mono fun b hb =>
      hb.trans (swapIfInBounds_perm a (i + 1) j)

theorem yields_sampleOnePass {population amount : Nat} (hle : amount ≤ population) :
    Yields (sampleOnePass population amount : Draw σ (List Nat)) (IsSample population amount) := by
  have hpass {place : List Nat → Nat → Nat → List Nat}
      (hplace : ∀ drawn j t, (place drawn j t).Perm (taken drawn j t :: drawn)) :
      Yields (onePass place amount (population - amount) [] : Draw σ (List Nat))
        (IsSample population amount) := by
    have := yields_onePass (σ := σ) hplace amount (population - amount) 0
      (isSample_nil (population - amount))
    rwa [Nat.sub_add_cancel hle, Nat.zero_add] at this
  unfold sampleOnePass
  split_ifs
  · exact hpass placeInside_perm
  · refine Yields.bind (hpass placeLast_perm) fun drawn hdrawn => ?_
    refine Yields.bind (yields_shuffleBack (amount - 1) drawn.toArray) fun b hb => ?_
    exact yields_pure (hdrawn.perm hb)

/-! ## Rejection -/

omit [WordSource σ] in
theorem yields_fresh {population : Nat} {next : Std.HashSet Nat → Draw σ Nat}
    (hnext : ∀ seen, Yields (next seen) fun v => v < population ∧ v ∉ seen)
    (amount : Nat) (seen : Std.HashSet Nat) :
    Yields (fresh next amount seen) fun drawn =>
      IsSample population amount drawn ∧ ∀ v ∈ drawn, v ∉ seen := by
  induction amount generalizing seen with
  | zero => exact yields_pure ⟨isSample_nil population, by simp⟩
  | succ amount ih =>
    refine Yields.bind (hnext seen) fun v hv => ?_
    refine Yields.bind (ih (seen.insert v)) fun drawn hdrawn => ?_
    obtain ⟨hsample, hseen⟩ := hdrawn
    simp only [Std.HashSet.mem_insert, beq_iff_eq, not_or] at hseen
    refine yields_pure ⟨⟨by simp [hsample.length_eq], ?_, ?_⟩, ?_⟩
    · exact List.nodup_cons.mpr ⟨fun hmem => (hseen v hmem).1 rfl, hsample.nodup⟩
    · exact List.forall_mem_cons.mpr ⟨hv.1, hsample.lt⟩
    · exact List.forall_mem_cons.mpr ⟨hv.2, fun u hu => (hseen u hu).2⟩

theorem of_unseen?_eq_some {bits population zone word v : Nat} {seen : Std.HashSet Nat}
    (hpos : 0 < population) (hword : word < 1 <<< bits)
    (h : unseen? seen (scale? bits population zone word) = some v) :
    v < population ∧ v ∉ seen := by
  obtain ⟨hscale, hv⟩ := Option.filter_eq_some_iff.mp h
  exact ⟨lt_of_scale?_eq_some hpos hword hscale, by simpa using hv⟩

theorem yields_sampleRejecting32 {population amount : Nat} (hle : amount ≤ population) :
    Yields (sampleRejecting32 population amount : Draw σ (List Nat))
      (IsSample population amount) := by
  rcases Nat.eq_zero_or_pos population with rfl | hpos
  · obtain rfl := Nat.le_zero.mp hle
    exact yields_pure (isSample_nil 0)
  · exact (yields_fresh (fun _ => yields_until32 fun w _ hv =>
      of_unseen?_eq_some hpos w.toNat_lt hv) amount ∅).mono fun _ h => h.1

theorem yields_sampleRejecting64 {population amount : Nat} (hle : amount ≤ population) :
    Yields (sampleRejecting64 population amount : Draw σ (List Nat))
      (IsSample population amount) := by
  rcases Nat.eq_zero_or_pos population with rfl | hpos
  · obtain rfl := Nat.le_zero.mp hle
    exact yields_pure (isSample_nil 0)
  · exact (yields_fresh (fun _ => yields_until64 fun w _ hv =>
      of_unseen?_eq_some hpos w.toNat_lt hv) amount ∅).mono fun _ h => h.1

/-! ## All ways -/

/-- **Sampling without replacement.** Every sample that is drawn consists of `amount` different
numbers below `population`. -/
theorem yields_sample {population amount : Nat} (hle : amount ≤ population) :
    Yields (sample population amount : Draw σ (List Nat)) (IsSample population amount) := by
  unfold sample
  cases way population amount with
  | inPlace => exact yields_sampleInPlace hle
  | onePass => exact yields_sampleOnePass hle
  | rejecting32 => exact yields_sampleRejecting32 hle
  | rejecting64 => exact yields_sampleRejecting64 hle

/-- Few numbers are drawn in one pass. -/
theorem sample_eq_sampleOnePass {population amount : Nat} (hpopulation : population < UInt32.size)
    (hamount : amount ≤ 11) :
    (sample population amount : Draw σ (List Nat)) = sampleOnePass population amount := by
  have hway : way population amount = .onePass := by
    unfold way
    rw [if_neg (Nat.not_le.mpr hpopulation),
      if_pos (Nat.lt_of_le_of_lt hamount (by decide : 11 < rejectedAmount))]
    exact if_neg fun h => Nat.not_lt.mpr hamount h.1
  rw [sample, hway]

end RackTraffic.Draw
