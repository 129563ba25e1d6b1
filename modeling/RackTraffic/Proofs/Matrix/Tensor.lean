import RackTraffic.Matrix.Tensor
import RackTraffic.Proofs.Lists
import RackTraffic.Proofs.Matrix.Marks

/-!
# Where the matrices of a batch stand in its tensors

The tensors of a batch exist if the inputs can be stored and the matrices are over one number of
racks. The labels have as many cells as the inputs, so they can then be stored too
(`storable_labels`), and so can the single matrices (`storable_matrix`).

Entry `k` of the tensors holds the matrices of the `k`-th allocation, row by row (`Stack.Holds`,
`stack_eq_ok`): every matrix before it takes the same number of cells.
-/

namespace RackTraffic

/-! ## Sizes -/

variable {count n : Nat}

theorem storable_labels (h : storable [count, 1, n, n] = true) :
    storable [count, n * n, 1] = true := by
  have hcells : n * n = 0 ↔ n = 0 := by rw [Nat.mul_eq_zero, or_self]
  by_cases hcount : count = 0 <;> by_cases hn : n = 0 <;>
    simp_all [storable, Nat.mul_assoc]

theorem storable_matrix (hcount : 0 < count) (h : storable [count, 1, n, n] = true) :
    storable [n, n] = true := by
  by_cases hn : n = 0
  · subst hn
    decide
  · have hall : 8 * (1 * count * 1 * n * n) ≤ maxArrayBytes :=
      of_decide_eq_true (Bool.and_eq_true_iff.mp h).2
    have hfilter : [n, n].filter (· ≠ 0) = [n, n] := by simp [hn]
    have hle : n * n ≤ count * n * n := by
      rw [Nat.mul_assoc]
      exact Nat.le_mul_of_pos_left _ hcount
    rw [storable, hfilter, Bool.and_eq_true_iff]
    simp only [List.foldl_cons, List.foldl_nil, Nat.one_mul, Nat.mul_one,
      decide_eq_true_eq] at hall ⊢
    omega

/-! ## Places -/

namespace Tensor

/-- The place of an input. -/
theorem offset?_input {k : Nat} (hk : k < count) (i j : Fin n) :
    offset? [count, 1, n, n] [k, 0, i, j] = some (k * (n * n) + LinkMatrix.index i j) := by
  simp [offset?, hk, LinkMatrix.index]

/-- The place of a label. -/
theorem offset?_label {k cell : Nat} (hk : k < count) (hcell : cell < n * n) :
    offset? [count, n * n, 1] [k, cell, 0] = some (k * (n * n) + cell) := by
  simp [offset?, hk, hcell]

end Tensor

/-! ## Stacks -/

/-- Tensors hold the matrices of a batch of allocations over `n` racks. -/
structure Stack.Holds (n : Nat) (batch : List Connections) (tensors : Stack) : Prop where
  inputShape : tensors.inputs.shape = [batch.length, 1, n, n]
  labelShape : tensors.labels.shape = [batch.length, n * n, 1]
  input : ∀ k present wireless, batch[k]? = some ⟨n, present, wireless⟩ →
    ∀ i j : Fin n, tensors.inputs.at? [k, 0, i, j] = some (present.get i j)
  label : ∀ k present wireless, batch[k]? = some ⟨n, present, wireless⟩ →
    ∀ i j : Fin n, tensors.labels.at? [k, LinkMatrix.index i j, 0] = some (wireless.get i j)

/-- The tensors of matrices over one number of racks exist if the inputs can be stored. -/
theorem stack_eq_ok {batch : List Connections} {rackCount : UInt64}
    (hstorable : storable [batch.length, 1, rackCount.toNat, rackCount.toNat] = true)
    (hcount : ∀ c ∈ batch, c.rackCount = rackCount.toNat) :
    ∃ tensors, stack batch rackCount = .ok tensors ∧ tensors.Holds rackCount.toNat batch := by
  have hall : (batch.all fun c => c.rackCount == rackCount.toNat) = true := by simpa using hcount
  have hpresent : ∀ c ∈ batch,
      c.present.cells.toList.length = rackCount.toNat * rackCount.toNat := by
    intro c hc
    rw [Vector.length_toList, hcount c hc]
  have hwireless : ∀ c ∈ batch,
      c.wireless.cells.toList.length = rackCount.toNat * rackCount.toNat := by
    intro c hc
    rw [Vector.length_toList, hcount c hc]
  have hstack := stack.eq_1 batch rackCount
  simp only [hstorable, storable_labels hstorable, hall, Bool.and_self, if_true] at hstack
  refine ⟨_, hstack, rfl, rfl, fun k present wireless hk i j => ?_,
    fun k present wireless hk i j => ?_⟩
  · have hlt := (List.getElem?_eq_some_iff.mp hk).1
    rw [Tensor.at?, Tensor.offset?_input hlt, Option.bind_some,
      getElem?_flatMap_of_length hpresent hk (LinkMatrix.index_lt i j)]
    exact present.getElem?_toList_cells i j
  · have hlt := (List.getElem?_eq_some_iff.mp hk).1
    rw [Tensor.at?, Tensor.offset?_label hlt (LinkMatrix.index_lt i j), Option.bind_some,
      getElem?_flatMap_of_length hwireless hk (LinkMatrix.index_lt i j)]
    exact wireless.getElem?_toList_cells i j

/-- Tensors have as many cells as the matrices together. -/
theorem length_cells_of_stack {batch : List Connections} {rackCount : UInt64} {tensors : Stack}
    (h : stack batch rackCount = .ok tensors) :
    tensors.inputs.cells.length = batch.length * (rackCount.toNat * rackCount.toNat) ∧
      tensors.labels.cells.length = batch.length * (rackCount.toNat * rackCount.toNat) := by
  unfold stack at h
  dsimp only at h
  split_ifs at h with hstorable hall
  cases h
  have hcount : ∀ c ∈ batch, c.rackCount = rackCount.toNat := by simpa using hall
  refine ⟨length_flatMap_of_length fun c hc => ?_, length_flatMap_of_length fun c hc => ?_⟩
  · rw [Vector.length_toList, hcount c hc]
  · rw [Vector.length_toList, hcount c hc]

end RackTraffic
