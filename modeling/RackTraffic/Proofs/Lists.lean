import Mathlib.Data.List.Forall2
import Mathlib.Data.List.ReduceOption
import Mathlib.Data.List.TakeDrop

/-!
# Lists that are made from others

A loop makes one thing from each entry of a list. What it has made is related to the list entry by
entry, so that each side can be looked up in the other (`exists_getElem?_of_forall₂`,
`exists_mem_of_forall₂`), and what depends on the entries alone is the same on both
(`map_eq_map_of_forall₂`, `flatMap_eq_flatMap_of_forall₂`). If nothing is made from some entries,
what is made from the rest keeps its order (`map_reduceOption_sublist`).

In a list in order, what is less than an entry stands before it (`mem_of_mem_append_cons`). A list
that goes on with something else is taken up to there (`takeWhile_append_of_stop`).

Parts of one size that are joined keep their places (`getElem?_flatMap_of_length`), and nothing else
is there (`length_flatMap_of_length`). Parts that a list is split into at a separator are made of
its other entries (`mem_of_mem_splitOn`).
-/

namespace RackTraffic

variable {α β γ : Type} {R : α → β → Prop} {l : List α} {l' : List β}

theorem exists_getElem?_of_forall₂ (h : List.Forall₂ R l l') {i : Nat} {a : α}
    (hi : l[i]? = some a) :
    ∃ b, l'[i]? = some b ∧ R a b := by
  obtain ⟨hlt, rfl⟩ := List.getElem?_eq_some_iff.mp hi
  have hlt' : i < l'.length := h.length_eq ▸ hlt
  exact ⟨l'[i], List.getElem?_eq_getElem hlt', h.get hlt hlt'⟩

theorem exists_mem_of_forall₂ (h : List.Forall₂ R l l') {b : β} (hb : b ∈ l') : ∃ a ∈ l, R a b := by
  obtain ⟨i, hi, rfl⟩ := List.getElem_of_mem hb
  have hi' : i < l.length := h.length_eq ▸ hi
  exact ⟨l[i], List.getElem_mem hi', h.get hi' hi⟩

theorem map_eq_map_of_forall₂ {f : α → γ} {g : β → γ} (h : List.Forall₂ R l l')
    (heq : ∀ a b, R a b → g b = f a) : l'.map g = l.map f := by
  rw [← List.forall₂_eq_eq_eq, List.forall₂_map_left_iff, List.forall₂_map_right_iff]
  exact (h.imp heq).flip

theorem flatMap_eq_flatMap_of_forall₂ {f : α → List γ} {g : β → List γ} (h : List.Forall₂ R l l')
    (heq : ∀ a b, R a b → g b = f a) : l'.flatMap g = l.flatMap f := by
  rw [List.flatMap_def, List.flatMap_def, map_eq_map_of_forall₂ h heq]

/-- If a loop makes at most one thing from each entry, and the entry can be told from it, then the
things are in the order of the entries. -/
theorem map_reduceOption_sublist {f : β → α} {found : List (Option β)}
    (h : List.Forall₂ (fun a b? => ∀ b ∈ b?, f b = a) l found) :
    (found.reduceOption.map f).Sublist l := by
  induction h with
  | nil => exact .slnil
  | @cons a b? l found hb _ ih =>
    cases b? with
    | none => exact ih.cons a
    | some b =>
      rw [List.reduceOption_cons_of_some, List.map_cons, hb b rfl]
      exact ih.cons_cons a

/-- A list that is joined of parts of one size has the entries of each part at its place. -/
theorem getElem?_flatMap_of_length {part : α → List β} {size k r : Nat} {a : α}
    (hsize : ∀ b ∈ l, (part b).length = size) (hk : l[k]? = some a) (hr : r < size) :
    (l.flatMap part)[k * size + r]? = (part a)[r]? := by
  induction l generalizing k with
  | nil => cases hk
  | cons b l ih =>
    obtain ⟨hb, hl⟩ := List.forall_mem_cons.mp hsize
    rw [List.flatMap_cons]
    cases k with
    | zero =>
      cases hk
      rw [Nat.zero_mul, Nat.zero_add, List.getElem?_append_left (hb ▸ hr)]
    | succ k =>
      rw [Nat.succ_mul, Nat.add_right_comm, List.getElem?_append_right (hb ▸ Nat.le_add_left _ _),
        hb, Nat.add_sub_cancel]
      exact ih hl hk

theorem length_flatMap_of_length {part : α → List β} {size : Nat}
    (hsize : ∀ a ∈ l, (part a).length = size) : (l.flatMap part).length = l.length * size := by
  rw [List.length_flatMap, List.map_congr_left hsize, List.map_const', List.sum_replicate_nat]

/-- What is less than an entry of a list in order stands before it. -/
theorem mem_of_mem_append_cons {r : α → α → Prop} [Std.Asymm r] {before after : List α} {a b : α}
    (hsorted : (before ++ a :: after).Pairwise r) (hmem : b ∈ before ++ a :: after) (hlt : r b a) :
    b ∈ before := by
  rcases List.mem_append.mp hmem with hbefore | hmem
  · exact hbefore
  · obtain ⟨-, hsorted, -⟩ := List.pairwise_append.mp hsorted
    rcases List.mem_cons.mp hmem with rfl | hafter
    · exact absurd hlt (Std.Asymm.asymm _ _ hlt)
    · exact absurd hlt (Std.Asymm.asymm _ _ ((List.pairwise_cons.mp hsorted).1 b hafter))

/-- What is taken from the start of a list ends where the list goes on with something else. -/
theorem takeWhile_append_of_stop {p : α → Bool} {l' : List α} (hl : ∀ a ∈ l, p a)
    (hstop : ∀ a ∈ l'.head?, p a = false) : (l ++ l').takeWhile p = l := by
  rw [List.takeWhile_append_of_pos hl]
  cases l' with
  | nil => exact List.append_nil l
  | cons a l' => rw [List.takeWhile_cons_of_neg (by simp [hstop a rfl]), List.append_nil]

theorem dropWhile_append_of_stop {p : α → Bool} {l' : List α} (hl : ∀ a ∈ l, p a)
    (hstop : ∀ a ∈ l'.head?, p a = false) : (l ++ l').dropWhile p = l' := by
  rw [List.dropWhile_append_of_pos hl]
  cases l' with
  | nil => rfl
  | cons a l' => rw [List.dropWhile_cons_of_neg (by simp [hstop a rfl])]

/-- A part of a list that is split at a separator is made of entries of the list that are not the
separator. -/
theorem mem_of_mem_splitOn [BEq α] [LawfulBEq α] {separator : α} {part : List α}
    (h : part ∈ l.splitOn separator) {a : α} (ha : a ∈ part) : a ∈ l ∧ a ≠ separator := by
  induction l generalizing part with
  | nil =>
    obtain rfl : part = [] := by simpa using h
    cases ha
  | cons first l ih =>
    rw [List.splitOn_cons_eq_if_modifyHead] at h
    split_ifs at h with hfirst
    · rcases List.mem_cons.mp h with rfl | h
      · cases ha
      · exact ⟨List.mem_cons_of_mem first (ih h ha).1, (ih h ha).2⟩
    · -- The first entry joins the first part of the rest.
      obtain ⟨head, rest, hrest⟩ := List.exists_cons_of_ne_nil (List.splitOn_ne_nil separator l)
      rw [hrest] at h ih
      rcases List.mem_cons.mp h with rfl | h
      · rcases List.mem_cons.mp ha with rfl | ha
        · exact ⟨List.mem_cons_self, by simpa using hfirst⟩
        · exact ⟨List.mem_cons_of_mem first (ih List.mem_cons_self ha).1,
            (ih List.mem_cons_self ha).2⟩
      · exact ⟨List.mem_cons_of_mem first (ih (List.mem_cons_of_mem head h) ha).1,
          (ih (List.mem_cons_of_mem head h) ha).2⟩

end RackTraffic
