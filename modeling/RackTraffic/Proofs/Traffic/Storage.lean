import RackTraffic.Proofs.Disk.Atomic
import RackTraffic.Proofs.Traffic.Log
import RackTraffic.Traffic.Storage

/-!
# Stored logs are read back

A log is stored as one file, whose name says whose log it is (`FlowLog.file`, `AllocationLog.file`).
Where the text of this file can be read, the log is read (`Disk.readFlowLog_eq_ok`,
`Disk.readAllocationLog_eq_ok`).
-/

namespace RackTraffic

variable {d e : Disk} {directory path : Path}

/-- The name and the text of the file of a flow log. -/
def FlowLog.file (log : FlowLog) : String × String := (log.scenario.flowLogName, log.text)

/-- The name and the text of the file of an allocation log. -/
def AllocationLog.file (log : AllocationLog) : String × String :=
  (log.id.allocationLogName, log.text)

/-- To store a log is to write its file. -/
theorem FlowLog.store_eq_ok {log : FlowLog} : log.store directory d = (.ok path, e) ↔
    Disk.writeAtomic (directory.join log.file.1) log.file.2 d = (.ok (), e) ∧
      path = log.pathIn directory :=
  DiskAction.bind_pure_eq_ok

theorem AllocationLog.store_eq_ok {log : AllocationLog} : log.store directory d = (.ok path, e) ↔
    Disk.writeAtomic (directory.join log.file.1) log.file.2 d = (.ok (), e) ∧
      path = log.pathIn directory :=
  DiskAction.bind_pure_eq_ok

theorem FlowLog.wrote_of_store {log : FlowLog} (h : log.store directory d = (.ok path, e)) :
    Disk.Wrote directory d [log.file] e :=
  Disk.wrote_of_writeAtomic log.scenario.isEntryName_flowLogName (store_eq_ok.mp h).1

theorem AllocationLog.wrote_of_store {log : AllocationLog}
    (h : log.store directory d = (.ok path, e)) : Disk.Wrote directory d [log.file] e :=
  Disk.wrote_of_writeAtomic log.id.isEntryName_allocationLogName (store_eq_ok.mp h).1

/-- A flow log is read from its file. -/
theorem Disk.readFlowLog_eq_ok {log : FlowLog} (hlabels : ∀ flow ∈ log.flows, flow.label.IsStorable)
    (h : d.readText (log.pathIn directory) = .ok log.text) :
    d.readFlowLog (log.pathIn directory) = .ok log := by
  have hname : (log.pathIn directory).fileName?.bind ScenarioId.ofFlowLogName? =
      some log.scenario := by
    rw [FlowLog.pathIn, Path.fileName?_join log.scenario.isEntryName_flowLogName]
    exact ScenarioId.ofFlowLogName?_eq_some.mpr rfl
  rw [readFlowLog, readLog, hname]
  simp only [h, Except.mapError, bind, Except.bind, FlowLog.ofText_text hlabels]

/-- The name of a file says whose allocation log it is. -/
theorem Disk.readAllocationLog_join (id : PairId) :
    d.readAllocationLog (directory.join id.allocationLogName) =
      (d.readText (directory.join id.allocationLogName)).mapError .io >>= fun text =>
        (AllocationLog.ofText id.scenario id.variant text).mapError
          (.malformed (directory.join id.allocationLogName)) := by
  have hname : (directory.join id.allocationLogName).fileName?.bind PairId.ofAllocationLogName? =
      some id := by
    rw [Path.fileName?_join id.isEntryName_allocationLogName]
    exact PairId.ofAllocationLogName?_eq_some.mpr rfl
  rw [readAllocationLog, readLog, hname]

/-- An allocation log is read from its file. -/
theorem Disk.readAllocationLog_eq_ok {log : AllocationLog}
    (hlabels : ∀ allocated ∈ log.flows, allocated.flow.label.IsStorable)
    (h : d.readText (log.pathIn directory) = .ok log.text) :
    d.readAllocationLog (log.pathIn directory) = .ok log := by
  have htext : AllocationLog.ofText log.id.scenario log.id.variant log.text = .ok log :=
    AllocationLog.ofText_text hlabels
  rw [AllocationLog.pathIn] at h ⊢
  rw [readAllocationLog_join]
  simp only [h, Except.mapError, bind, Except.bind, htext]

end RackTraffic
