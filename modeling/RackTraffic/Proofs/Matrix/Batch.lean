import RackTraffic.Matrix.Batch
import RackTraffic.Proofs.Disk.Basic
import RackTraffic.Proofs.Matrix.Tensor

/-!
# The tensors of a directory

If the allocation logs of a directory can be read, all their racks exist and the tensors can be
stored, then there are tensors, and entry `k` of them shows the flows of the `k`-th log
(`TensorBatch.Shows`, `Disk.tensorBatch_eq_ok`).

What an entry shows is enough to count its labels (`TensorBatch.Shows.labelCount_eq`).
-/

namespace RackTraffic

variable {rackCount : UInt64} {d : Disk} {directory : Path} {logs : List AllocationLog}

/-- How many labels of entry `k` are marked, for matrices over `n` racks. -/
def Stack.labelCount (tensors : Stack) (n k : Nat) : Nat :=
  (List.range (n * n)).countP fun cell => tensors.labels.at? [k, cell, 0] = some true

/-- The tensors of a batch show the flows of allocation logs. -/
structure TensorBatch.Shows (rackCount : UInt64) (logs : List AllocationLog) (batch : TensorBatch) :
    Prop where
  ids_eq : batch.ids = logs.map AllocationLog.id
  inputShape : batch.tensors.inputs.shape = [logs.length, 1, rackCount.toNat, rackCount.toNat]
  labelShape : batch.tensors.labels.shape = [logs.length, rackCount.toNat * rackCount.toNat, 1]
  input : ∀ k log, logs[k]? = some log → ∀ i < rackCount.toNat, ∀ j < rackCount.toNat,
    batch.tensors.inputs.at? [k, 0, i, j] =
      some (decide (∃ allocated ∈ log.flows, allocated.flow.Leads i j))
  label : ∀ k log, logs[k]? = some log → ∀ i < rackCount.toNat, ∀ j < rackCount.toNat,
    batch.tensors.labels.at? [k, i * rackCount.toNat + j, 0] =
      some (decide (∃ allocated ∈ log.flows,
        allocated.link.isWireless = true ∧ allocated.flow.Leads i j))

namespace Disk

/-- The matrices of logs, one after the other. -/
theorem exists_allConnections
    (hread : ∀ log ∈ logs, d.readAllocationLog (log.pathIn directory) = .ok log)
    (hstorable : ∀ log ∈ logs, storable [rackCount.toNat, rackCount.toNat] = true)
    (hwithin : ∀ log ∈ logs, ∀ allocated ∈ log.flows, allocated.flow.Within rackCount) :
    ∃ batch, d.allConnections rackCount (logs.map (·.pathIn directory)) = .ok batch ∧
      List.Forall₂ (fun log c => ∃ present wireless, c = ⟨rackCount.toNat, present, wireless⟩ ∧
        Marks rackCount.toNat log.flows present wireless) logs batch := by
  induction logs with
  | nil => exact ⟨[], rfl, .nil⟩
  | cons log logs ih =>
    simp only [List.forall_mem_cons] at hread hstorable hwithin
    obtain ⟨present, wireless, hlog, hmarks⟩ :=
      AllocationLog.connections_eq_ok hstorable.1 hwithin.1
    obtain ⟨batch, hbatch, hall⟩ := ih hread.2 hstorable.2 hwithin.2
    have hconnections : d.connections (log.pathIn directory) rackCount =
        .ok ⟨_, present, wireless⟩ := by
      rw [connections, hread.1]
      exact mapError_eq_ok.mpr hlog
    refine ⟨_ :: batch, ?_, .cons ⟨present, wireless, rfl, hmarks⟩ hall⟩
    rw [List.map_cons, allConnections, hconnections, hbatch]
    rfl

/-- **Tensors show the flows of the logs.** -/
theorem tensorBatch_eq_ok
    (hlogs : d.allocationLogs directory = .ok (logs.map fun log => (log.id, log.pathIn directory)))
    (hread : ∀ log ∈ logs, d.readAllocationLog (log.pathIn directory) = .ok log)
    (hstorable : storable [logs.length, 1, rackCount.toNat, rackCount.toNat] = true)
    (hwithin : ∀ log ∈ logs, ∀ allocated ∈ log.flows, allocated.flow.Within rackCount) :
    ∃ batch, d.tensorBatch directory rackCount = .ok batch ∧ batch.Shows rackCount logs := by
  obtain ⟨connections, hconnections, hall⟩ := exists_allConnections hread
    (fun log hlog => storable_matrix (List.length_pos_of_mem hlog) hstorable) hwithin
  have hlength : logs.length = connections.length := hall.length_eq
  have hcount : ∀ c ∈ connections, c.rackCount = rackCount.toNat := by
    intro c hc
    obtain ⟨log, -, present, wireless, rfl, -⟩ := exists_mem_of_forall₂ hall hc
    rfl
  have hentry : ∀ (k : Nat) (log : AllocationLog), logs[k]? = some log →
      ∃ present wireless, connections[k]? = some ⟨rackCount.toNat, present, wireless⟩ ∧
        Marks rackCount.toNat log.flows present wireless := by
    intro k log hk
    obtain ⟨c, hc, present, wireless, rfl, hmarks⟩ := exists_getElem?_of_forall₂ hall hk
    exact ⟨present, wireless, hc, hmarks⟩
  obtain ⟨tensors, hstack, hholds⟩ := stack_eq_ok (hlength ▸ hstorable) hcount
  refine ⟨⟨tensors, logs.map AllocationLog.id⟩, ?_, rfl, ?_, ?_, ?_, ?_⟩
  · have hpaths : (logs.map fun log => (log.id, log.pathIn directory)).map Prod.snd =
        logs.map (·.pathIn directory) := by
      rw [List.map_map]
      rfl
    have hids : (logs.map fun log => (log.id, log.pathIn directory)).map Prod.fst =
        logs.map AllocationLog.id := by
      rw [List.map_map]
      rfl
    rw [tensorBatch, hlogs]
    simp only [Except.mapError, bind, Except.bind, hpaths, hids, hconnections, hstack]
    rfl
  · rw [hholds.inputShape, hlength]
  · rw [hholds.labelShape, hlength]
  · intro k log hk i hi j hj
    obtain ⟨present, wireless, hc, hmarks⟩ := hentry k log hk
    rw [hholds.input k present wireless hc ⟨i, hi⟩ ⟨j, hj⟩, hmarks.get_present]
  · intro k log hk i hi j hj
    obtain ⟨present, wireless, hc, hmarks⟩ := hentry k log hk
    rw [← hmarks.get_wireless ⟨i, hi⟩ ⟨j, hj⟩]
    exact hholds.label k present wireless hc ⟨i, hi⟩ ⟨j, hj⟩

end Disk

/-- There are as many labels as different cells of wireless flows. -/
theorem TensorBatch.Shows.labelCount_eq {batch : TensorBatch} (h : batch.Shows rackCount logs)
    {k : Nat} {log : AllocationLog} (hk : logs[k]? = some log)
    (hwithin : ∀ allocated ∈ log.flows, allocated.flow.Within rackCount) :
    batch.tensors.labelCount rackCount.toNat k =
      (wirelessCells rackCount.toNat log.flows).dedup.length := by
  refine countP_eq_length_dedup_wirelessCells (fun i j => ?_) hwithin
  rw [decide_eq_true_eq, LinkMatrix.index, h.label k log hk i i.isLt j j.isLt, Option.some.injEq,
    decide_eq_true_eq]

end RackTraffic
