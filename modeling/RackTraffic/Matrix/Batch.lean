import RackTraffic.Json.Value
import RackTraffic.Matrix.Tensor
import RackTraffic.Traffic.Listing
import RackTraffic.WorkFault

/-!
# The tensors of a directory

Every allocation log of a directory becomes one entry of the batch, in the order of the listing, so
that entry `k` of the tensors belongs to identifier `k`. The batch fails if one of the logs does.
-/

namespace RackTraffic

/-- The tensors of a directory, with the allocation behind each entry. -/
structure TensorBatch where
  tensors : Stack
  ids : List PairId
  deriving DecidableEq, Repr

inductive TensorFault where
  | tooLarge
  | work (fault : WorkFault)
  deriving DecidableEq, Repr

def TensorFault.ofMatrixFault (path : Path) : MatrixFault → TensorFault
  | .malformed fault => .work (.unfitLog path fault)
  | .tooLarge | .mismatch => .tooLarge

namespace Disk

def connections (d : Disk) (path : Path) (rackCount : UInt64) :
    Except TensorFault Connections := do
  let log ← (d.readAllocationLog path).mapError fun fault => .work (.log fault)
  (log.connections rackCount).mapError (.ofMatrixFault path)

/-- The matrices of several logs. -/
def allConnections (d : Disk) (rackCount : UInt64) :
    List Path → Except TensorFault (List Connections)
  | [] => .ok []
  | path :: rest => do
    let c ← d.connections path rackCount
    return c :: (← d.allConnections rackCount rest)

/-- The tensors of every allocation log in a directory. -/
def tensorBatch (d : Disk) (directory : Path) (rackCount : UInt64) :
    Except TensorFault TensorBatch := do
  let logs ← (d.allocationLogs directory).mapError fun error => .work (.io error)
  let batch ← d.allConnections rackCount (logs.map Prod.snd)
  let tensors ← (stack batch rackCount).mapError (.ofMatrixFault directory)
  return { tensors, ids := logs.map Prod.fst }

end Disk

/-! ## JSON form -/

def markJson (mark : Bool) : JsonValue :=
  .number { whole := [if mark then '1' else '0'], fraction := ['0'] }

/-- A tensor as a JSON value: a format version, the shape and the numbers. -/
def Tensor.toJson (t : Tensor) : JsonValue :=
  .ofMembers [
    ("v", .ofNat 1),
    ("dim", .array (t.shape.map .ofNat)),
    ("data", .array (t.cells.map markJson)) ]

def PairId.toJson (id : PairId) : JsonValue :=
  .array [.ofUInt64 id.scenario.number, .ofUInt64 id.variant.number]

end RackTraffic
