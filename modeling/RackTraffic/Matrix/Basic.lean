import RackTraffic.Traffic.Log

/-!
# Link matrices

A link matrix over `n` racks has a cell for every ordered pair of racks, stored row by row. A cell
is marked or not: the matrices of an allocation say which pairs have a flow, and which have a flow
on a wireless link.

Marking a cell twice is marking it once, and marks commute, so the matrices of an allocation do not
depend on the order or the repetition of its records.
-/

namespace RackTraffic

/-- A mark or no mark for every ordered pair of `n` racks. -/
structure LinkMatrix (n : Nat) where
  cells : Vector Bool (n * n)
  deriving DecidableEq

namespace LinkMatrix

variable {n : Nat}

def index (i j : Fin n) : Nat := i * n + j

theorem index_lt (i j : Fin n) : index i j < n * n := by
  have h : (i : Nat) * n + n ≤ n * n := by
    rw [← Nat.succ_mul]
    exact Nat.mul_le_mul_right n i.isLt
  have := j.isLt
  unfold index
  omega

theorem index_inj {i j k l : Fin n} (h : index i j = index k l) : i = k ∧ j = l := by
  have hi := congrArg (· / n) h
  have hj := congrArg (· % n) h
  have hn : 0 < n := Nat.lt_of_le_of_lt (Nat.zero_le _) i.isLt
  have hd (a b : Fin n) : index a b / n = a := by
    unfold index
    rw [Nat.mul_comm, Nat.mul_add_div hn, Nat.div_eq_of_lt b.isLt, Nat.add_zero]
  have hm (a b : Fin n) : index a b % n = b := by
    unfold index
    rw [Nat.mul_comm, Nat.mul_add_mod, Nat.mod_eq_of_lt b.isLt]
  simp only [hd, hm] at hi hj
  exact ⟨Fin.ext hi, Fin.ext hj⟩

def empty (n : Nat) : LinkMatrix n := ⟨Vector.replicate (n * n) false⟩

def get (m : LinkMatrix n) (i j : Fin n) : Bool :=
  have := index_lt i j
  m.cells[index i j]

def mark (m : LinkMatrix n) (i j : Fin n) : LinkMatrix n :=
  ⟨m.cells.set (index i j) true (index_lt i j)⟩

@[simp] theorem get_empty (i j : Fin n) : (empty n).get i j = false := by
  simp [get, empty]

theorem get_mark (m : LinkMatrix n) (i j k l : Fin n) :
    (m.mark i j).get k l = if i = k ∧ j = l then true else m.get k l := by
  simp only [get, mark, Vector.getElem_set]
  by_cases h : index i j = index k l
  · simp [index_inj h]
  · have : ¬(i = k ∧ j = l) := fun ⟨h₁, h₂⟩ => h (h₁ ▸ h₂ ▸ rfl)
    simp [h, this]

def rows (m : LinkMatrix n) : List (List Bool) :=
  List.ofFn fun i => List.ofFn fun j => m.get i j

end LinkMatrix

/-! ## The matrices of an allocation -/

/-- The two matrices of an allocation. -/
structure Connections where
  rackCount : Nat
  /-- Marked where some flow goes from the row's rack to the column's. -/
  present : LinkMatrix rackCount
  /-- Marked where some such flow has a wireless link. -/
  wireless : LinkMatrix rackCount

inductive MatrixFault where
  | tooLarge
  | mismatch
  | malformed (fault : Malformed)
  deriving DecidableEq, Repr

def maxArrayBytes : Nat := Nat.pow 2 63 - 1

/-- Whether an array of numbers of eight bytes with these axes can be stored. Axes of length 0
count for nothing in the first condition, so that an array without elements may still be too
large. -/
def storable (axes : List Nat) : Bool :=
  (axes.filter (· ≠ 0)).foldl (· * ·) 1 ≤ maxArrayBytes && 8 * axes.foldl (· * ·) 1 ≤ maxArrayBytes

def Rack.place (rack : Rack) (rackCount : UInt64) : Except Malformed (Fin rackCount.toNat) :=
  if h : rack.index < rackCount then .ok ⟨rack.index.toNat, h⟩
  else .error (.rackOutOfRange rack rackCount)

/-- The places of the two ends of a flow; a bad source is reported before a bad destination. -/
def Flow.ends (flow : Flow) (rackCount : UInt64) :
    Except Malformed (Fin rackCount.toNat × Fin rackCount.toNat) := do
  let source ← flow.source.place rackCount
  let destination ← flow.destination.place rackCount
  return (source, destination)

/-- Mark the cells of flows in both matrices, up to the first flow with a rack that does not
exist. -/
def markFlows (rackCount : UInt64) :
    List AllocatedFlow → LinkMatrix rackCount.toNat → LinkMatrix rackCount.toNat →
      Except Malformed (LinkMatrix rackCount.toNat × LinkMatrix rackCount.toNat)
  | [], present, wireless => .ok (present, wireless)
  | allocated :: rest, present, wireless => do
    let (i, j) ← allocated.flow.ends rackCount
    markFlows rackCount rest (present.mark i j)
      (if allocated.link.isWireless then wireless.mark i j else wireless)

/-- The matrices of an allocation over `rackCount` racks. -/
def AllocationLog.connections (log : AllocationLog) (rackCount : UInt64) :
    Except MatrixFault Connections :=
  if storable [rackCount.toNat, rackCount.toNat] then
    match markFlows rackCount log.flows (.empty _) (.empty _) with
    | .ok (present, wireless) => .ok ⟨_, present, wireless⟩
    | .error fault => .error (.malformed fault)
  else .error .tooLarge

/-! ## The way back -/

inductive Unsupported where
  | logOfMatrices
  deriving DecidableEq, Repr

def Unsupported.message : Unsupported → String
  | .logOfMatrices => "converting adjacency matrices back into an allocation log is not supported"

/-- Matrices keep neither time steps nor sizes nor rates, so no log can be made from them. -/
def Connections.log (_ : Connections) : Except Unsupported AllocationLog :=
  .error .logOfMatrices

end RackTraffic
