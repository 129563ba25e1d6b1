import RackTraffic.Matrix.Basic

/-!
# Training tensors

A tensor is an array of marks with any number of axes, stored with the last axis running fastest.
The matrices of a batch of allocations become two tensors: the *inputs*, of shape
`(batch, 1, n, n)`, and the *labels*, of shape `(batch, n * n, 1)`, in which each label matrix is
laid out as a column. Entry `k` of either belongs to the `k`-th allocation.
-/

namespace RackTraffic

/-- An array of marks. -/
structure Tensor where
  shape : List Nat
  cells : List Bool
  deriving DecidableEq, Repr

/-- The place of an index in an array of this shape, if the index is within it. -/
def Tensor.offset? : List Nat → List Nat → Option Nat
  | [], [] => some 0
  | axis :: axes, i :: rest =>
    if i < axis then (offset? axes rest).map fun o => i * axes.foldl (· * ·) 1 + o else none
  | _, _ => none

def Tensor.at? (t : Tensor) (index : List Nat) : Option Bool :=
  (offset? t.shape index).bind fun o => t.cells[o]?

/-- The label matrix of an allocation as a column. -/
def Connections.labelColumn (c : Connections) : Tensor :=
  ⟨[c.rackCount * c.rackCount, 1], c.wireless.cells.toList⟩

/-- The tensors of a batch. -/
structure Stack where
  inputs : Tensor
  labels : Tensor
  deriving DecidableEq, Repr

/-- Put the matrices of allocations over `rackCount` racks into tensors. The size of the tensors is
checked before the sizes of the matrices. -/
def stack (batch : List Connections) (rackCount : UInt64) : Except MatrixFault Stack :=
  let n := rackCount.toNat
  let inputShape := [batch.length, 1, n, n]
  let labelShape := [batch.length, n * n, 1]
  if storable inputShape && storable labelShape then
    if batch.all fun c => c.rackCount == n then
      .ok {
        inputs := ⟨inputShape, batch.flatMap fun c => c.present.cells.toList⟩
        labels := ⟨labelShape, batch.flatMap fun c => c.wireless.cells.toList⟩ }
    else .error .mismatch
  else .error .tooLarge

end RackTraffic
