import RackTraffic.Proofs.Disk.Entries
import RackTraffic.Proofs.Matrix.Batch
import RackTraffic.Proofs.Traffic.Listing
import RackTraffic.Proofs.Traffic.RoundTrip

/-!
# Tensors are aligned with the files of a directory

**Theorem (`Disk.tensorBatch_aligned`).** If the allocation logs of a directory can be read and name
only racks that exist, the tensors of the directory have one entry for each of them, in the order of
their pairs, and entry `k` shows the flows of the log of pair `k` (`Disk.Aligned`). If one of the
logs does not fit, there are no tensors, and the fault is that of a log that does not fit. What else
is in the directory does not matter.

That a single log fits is the same as that its matrices can be made (`Disk.exists_connections_iff`),
so the loop over the logs succeeds just if all of them fit. Two directories with the same allocation
logs have the same pairs, because both listings are in order, and under the same path the same text
(`Disk.readText_join_congr`).
-/

namespace RackTraffic

variable {rackCount : UInt64} {d e : Disk} {directory path : Path}
  {entries entries' : List (String × Entry)} {ids : List PairId} {id : PairId}

namespace Disk

/-! ## Logs that fit -/

/-- The allocation log of a pair in a directory can be read, and all its racks exist. -/
def LogFits (d : Disk) (directory : Path) (rackCount : UInt64) (id : PairId) : Prop :=
  ∃ log, d.readAllocationLog (directory.join id.allocationLogName) = .ok log ∧
    ∀ allocated ∈ log.flows, allocated.flow.Within rackCount

theorem exists_connections_iff (hstorable : storable [rackCount.toNat, rackCount.toNat] = true) :
    (∃ c, d.connections (directory.join id.allocationLogName) rackCount = .ok c) ↔
      d.LogFits directory rackCount id := by
  constructor
  · rintro ⟨c, h⟩
    obtain ⟨log, hread, h⟩ := bind_eq_ok.mp h
    refine ⟨log, mapError_eq_ok.mp hread, (AllocationLog.exists_connections_iff hstorable).mp ?_⟩
    exact ⟨c, mapError_eq_ok.mp h⟩
  · rintro ⟨log, hread, hwithin⟩
    obtain ⟨c, hc⟩ := (AllocationLog.exists_connections_iff hstorable).mpr hwithin
    exact ⟨c, bind_eq_ok.mpr ⟨log, mapError_eq_ok.mpr hread, mapError_eq_ok.mpr hc⟩⟩

/-- A log that is read from the file of a pair is the log of this pair. -/
theorem id_of_readAllocationLog {log : AllocationLog}
    (h : d.readAllocationLog (directory.join id.allocationLogName) = .ok log) : log.id = id := by
  rw [readAllocationLog_join] at h
  obtain ⟨text, -, h⟩ := bind_eq_ok.mp h
  exact (AllocationLog.ofText_eq_ok_iff.mp (mapError_eq_ok.mp h)).1

theorem allConnections_eq_mapM (paths : List Path) :
    d.allConnections rackCount paths = paths.mapM (d.connections · rackCount) := by
  induction paths with
  | nil => rfl
  | cons path paths ih =>
    rw [allConnections, ih, List.mapM_cons]

/-- The tensors of a directory are stacked from the matrices of its pairs. -/
theorem tensorBatch_eq (hlogs : d.allocationLogs directory =
      .ok (ids.map fun id => (id, directory.join id.allocationLogName))) :
    d.tensorBatch directory rackCount = do
      let batch ← ids.mapM fun id => d.connections (directory.join id.allocationLogName) rackCount
      let tensors ← (stack batch rackCount).mapError (.ofMatrixFault directory)
      return { tensors, ids } := by
  have hpaths : (ids.map fun id => (id, directory.join id.allocationLogName)).map Prod.snd =
      ids.map fun id => directory.join id.allocationLogName := List.map_map
  have hids : (ids.map fun id => (id, directory.join id.allocationLogName)).map Prod.fst = ids := by
    rw [List.map_map]
    exact List.map_id ids
  rw [tensorBatch, hlogs]
  dsimp only [Except.mapError, bind, Except.bind]
  rw [hids, hpaths, allConnections_eq_mapM, List.mapM_map]
  rfl

/-! ## Tensors of a directory whose logs fit -/

/-- Tensors have an entry for each allocation log among the entries of a directory, in the order of
the pairs, and it shows the flows of the log. -/
structure Aligned (d : Disk) (directory : Path) (entries : List (String × Entry))
    (rackCount : UInt64) (batch : TensorBatch) : Prop where
  increasing : batch.ids.Pairwise (· < ·)
  mem_ids : ∀ id : PairId, id ∈ batch.ids ↔ HoldsFile entries id.allocationLogName
  inputShape : batch.tensors.inputs.shape =
    [batch.ids.length, 1, rackCount.toNat, rackCount.toNat]
  labelShape : batch.tensors.labels.shape =
    [batch.ids.length, rackCount.toNat * rackCount.toNat, 1]
  inputCount : batch.tensors.inputs.cells.length =
    batch.ids.length * (rackCount.toNat * rackCount.toNat)
  labelCount : batch.tensors.labels.cells.length =
    batch.ids.length * (rackCount.toNat * rackCount.toNat)
  input : ∀ k id log, batch.ids[k]? = some id →
    d.readAllocationLog (directory.join id.allocationLogName) = .ok log →
    ∀ i < rackCount.toNat, ∀ j < rackCount.toNat, batch.tensors.inputs.at? [k, 0, i, j] =
      some (decide (∃ allocated ∈ log.flows, allocated.flow.Leads i j))
  label : ∀ k id log, batch.ids[k]? = some id →
    d.readAllocationLog (directory.join id.allocationLogName) = .ok log →
    ∀ i < rackCount.toNat, ∀ j < rackCount.toNat,
      batch.tensors.labels.at? [k, i * rackCount.toNat + j, 0] =
        some (decide (∃ allocated ∈ log.flows,
          allocated.link.isWireless = true ∧ allocated.flow.Leads i j))

theorem length_cells_of_tensorBatch {batch : TensorBatch}
    (hlogs : d.allocationLogs directory =
      .ok (ids.map fun id => (id, directory.join id.allocationLogName)))
    (h : d.tensorBatch directory rackCount = .ok batch) :
    batch.tensors.inputs.cells.length = ids.length * (rackCount.toNat * rackCount.toNat) ∧
      batch.tensors.labels.cells.length = ids.length * (rackCount.toNat * rackCount.toNat) := by
  rw [tensorBatch_eq hlogs] at h
  obtain ⟨connections, hconnections, h⟩ := bind_eq_ok.mp h
  obtain ⟨tensors, hstack, h⟩ := bind_eq_ok.mp h
  cases h
  rw [(mapM_eq_ok_iff.mp hconnections).length_eq]
  exact length_cells_of_stack (mapError_eq_ok.mp hstack)

theorem exists_aligned (hsorted : ids.Pairwise (· < ·))
    (hlogs : d.allocationLogs directory =
      .ok (ids.map fun id => (id, directory.join id.allocationLogName)))
    (hfiles : ∀ id : PairId, id ∈ ids ↔ HoldsFile entries id.allocationLogName)
    (hstorable : storable [ids.length, 1, rackCount.toNat, rackCount.toNat] = true)
    (hfits : ∀ id ∈ ids, d.LogFits directory rackCount id) :
    ∃ batch, d.tensorBatch directory rackCount = .ok batch ∧
      d.Aligned directory entries rackCount batch := by
  obtain ⟨logs, hread⟩ := exists_mapM_eq_ok_iff.mpr fun id hid =>
    (hfits id hid).imp fun _ h => h.1
  have hall := mapM_eq_ok_iff.mp hread
  have hids : logs.map AllocationLog.id = ids := by
    rw [map_eq_map_of_forall₂ hall fun id log h => id_of_readAllocationLog h, List.map_id']
  have hlength : logs.length = ids.length := hall.length_eq.symm
  have hpaths : (logs.map fun log => (log.id, log.pathIn directory)) =
      ids.map fun id => (id, directory.join id.allocationLogName) :=
    map_eq_map_of_forall₂ hall fun id log h => by
      rw [AllocationLog.pathIn, id_of_readAllocationLog h]
  have hlog : ∀ log ∈ logs, d.readAllocationLog (log.pathIn directory) = .ok log ∧
      ∀ allocated ∈ log.flows, allocated.flow.Within rackCount := by
    intro log hmem
    obtain ⟨id, hid, h⟩ := exists_mem_of_forall₂ hall hmem
    obtain ⟨log', h', hwithin⟩ := hfits id hid
    obtain rfl : log' = log := Except.ok.inj (h'.symm.trans h)
    exact ⟨by rwa [AllocationLog.pathIn, id_of_readAllocationLog h], hwithin⟩
  obtain ⟨batch, hbatch, hshows⟩ := tensorBatch_eq_ok (hpaths ▸ hlogs)
    (fun log hmem => (hlog log hmem).1) (hlength ▸ hstorable) fun log hmem => (hlog log hmem).2
  obtain ⟨hinputs, hlabels⟩ := length_cells_of_tensorBatch hlogs hbatch
  have hbatchIds : batch.ids = ids := hshows.ids_eq.trans hids
  have hentry : ∀ (k : Nat) (id : PairId) (log : AllocationLog), batch.ids[k]? = some id →
      d.readAllocationLog (directory.join id.allocationLogName) = .ok log →
      logs[k]? = some log := by
    intro k id log hk h
    obtain ⟨log', hlog', h'⟩ := exists_getElem?_of_forall₂ hall (hbatchIds ▸ hk)
    rwa [Except.ok.inj (h.symm.trans h')]
  refine ⟨batch, hbatch, ?_, ?_, ?_, ?_, ?_, ?_, fun k id log hk h => hshows.input k log
    (hentry k id log hk h), fun k id log hk h => hshows.label k log (hentry k id log hk h)⟩
  · rwa [hbatchIds]
  · rwa [hbatchIds]
  · rw [hshows.inputShape, hlength, hbatchIds]
  · rw [hshows.labelShape, hlength, hbatchIds]
  · rw [hinputs, hbatchIds]
  · rw [hlabels, hbatchIds]

/-! ## What else is in the directory -/

/-- There are the same allocation logs among the entries of two directories. -/
def SameAllocationLogs (entries entries' : List (String × Entry)) : Prop :=
  ∀ (id : PairId) contents,
    (∃ executable, (id.allocationLogName, .file contents executable) ∈ entries) ↔
      ∃ executable, (id.allocationLogName, .file contents executable) ∈ entries'

/-- Logs with the same text are read in the same way. -/
theorem connections_congr (h : d.readText path = e.readText path) :
    d.connections path rackCount = e.connections path rackCount := by
  have hread : d.readAllocationLog path = e.readAllocationLog path := by
    rw [readAllocationLog, readAllocationLog, readLog, readLog, h]
  rw [connections, connections, hread]

/-- Only the allocation logs of a directory matter. -/
theorem tensorBatch_congr (hlist : d.list directory = .ok entries)
    (hlist' : e.list directory = .ok entries') (h : SameAllocationLogs entries entries') :
    d.tensorBatch directory rackCount = e.tensorBatch directory rackCount := by
  obtain ⟨ids, hlogs, hsorted, hfiles⟩ := exists_allocationLogs hlist
  obtain ⟨ids', hlogs', hsorted', hfiles'⟩ := exists_allocationLogs hlist'
  have hname : ∀ (name : String) (id : PairId),
      PairId.ofAllocationLogName? name = some id ↔ id.allocationLogName = name :=
    fun _ _ => PairId.ofAllocationLogName?_eq_some
  have heq : ids = ids' := by
    refine hsorted.eq_of_mem_iff hsorted' fun id => ?_
    rw [hfiles.mem_iff, hfiles'.mem_iff, mem_fileKeys hname, mem_fileKeys hname, holdsFile_iff,
      holdsFile_iff]
    exact exists_congr fun contents => h id contents
  subst heq
  have hconnections : ∀ id ∈ ids, d.connections (directory.join id.allocationLogName) rackCount =
      e.connections (directory.join id.allocationLogName) rackCount := by
    intro id hid
    rw [hfiles.mem_iff, mem_fileKeys hname, holdsFile_iff] at hid
    obtain ⟨contents, x, hmem⟩ := hid
    obtain ⟨y, hmem'⟩ := (h id contents).mp ⟨x, hmem⟩
    exact connections_congr
      (readText_join_congr id.isEntryName_allocationLogName hlist hlist' hmem hmem')
  rw [tensorBatch_eq hlogs, tensorBatch_eq hlogs', mapM_congr hconnections]

/-! ## Alignment -/

/-- If a log does not fit, the fault is that of a log that does not fit. -/
theorem exists_fault (hlogs : d.allocationLogs directory =
      .ok (ids.map fun id => (id, directory.join id.allocationLogName)))
    (hstorable : storable [ids.length, 1, rackCount.toNat, rackCount.toNat] = true)
    (hid : id ∈ ids) (hnot : ¬d.LogFits directory rackCount id) :
    ∃ other ∈ ids, ∃ fault, ¬d.LogFits directory rackCount other ∧
      d.connections (directory.join other.allocationLogName) rackCount = .error fault ∧
      d.tensorBatch directory rackCount = .error fault := by
  have hmatrix := storable_matrix (List.length_pos_of_mem hid) hstorable
  have hfails : ∃ fault, (ids.mapM fun id =>
      d.connections (directory.join id.allocationLogName) rackCount) = .error fault := by
    rw [exists_eq_error_iff, exists_mapM_eq_ok_iff]
    exact fun hall => hnot ((exists_connections_iff hmatrix).mp (hall id hid))
  obtain ⟨fault, hfault⟩ := hfails
  obtain ⟨before, other, after, rfl, -, hother⟩ := mapM_eq_error_iff.mp hfault
  refine ⟨other, List.mem_append_cons_self, fault, fun hfits => ?_, hother, ?_⟩
  · obtain ⟨c, hc⟩ := (exists_connections_iff hmatrix).mpr hfits
    rw [hc] at hother
    cases hother
  · rw [tensorBatch_eq hlogs, hfault]
    rfl

/-- **Tensors are aligned with the allocation logs of a directory.** -/
theorem tensorBatch_aligned (hlist : d.list directory = .ok entries)
    (hstorable : storable [(fileKeys PairId.ofAllocationLogName? entries).length, 1,
      rackCount.toNat, rackCount.toNat] = true) :
    ((∀ id : PairId, HoldsFile entries id.allocationLogName → d.LogFits directory rackCount id) →
      ∃ batch, d.tensorBatch directory rackCount = .ok batch ∧
        d.Aligned directory entries rackCount batch) ∧
    (∀ id : PairId, HoldsFile entries id.allocationLogName → ¬d.LogFits directory rackCount id →
      ∃ (other : PairId) (fault : TensorFault), HoldsFile entries other.allocationLogName ∧
        ¬d.LogFits directory rackCount other ∧
        d.connections (directory.join other.allocationLogName) rackCount = .error fault ∧
        d.tensorBatch directory rackCount = .error fault) ∧
    ∀ (e : Disk) entries', e.list directory = .ok entries' → SameAllocationLogs entries entries' →
      d.tensorBatch directory rackCount = e.tensorBatch directory rackCount := by
  obtain ⟨ids, hlogs, hsorted, hfiles⟩ := exists_allocationLogs hlist
  have hheld : ∀ id : PairId, id ∈ ids ↔ HoldsFile entries id.allocationLogName := fun id => by
    rw [hfiles.mem_iff, mem_fileKeys fun _ _ => PairId.ofAllocationLogName?_eq_some]
  rw [← hfiles.length_eq] at hstorable
  refine ⟨fun hfits => ?_, fun id hid hnot => ?_, fun e entries' => tensorBatch_congr hlist⟩
  · exact exists_aligned hsorted hlogs hheld hstorable fun id hid => hfits id ((hheld id).mp hid)
  · obtain ⟨other, hother, fault, h⟩ := exists_fault hlogs hstorable ((hheld id).mpr hid) hnot
    exact ⟨other, fault, (hheld other).mp hother, h⟩

end Disk

/-! ## Two logs -/

/-- The allocations of two variants. The one with the lower number has the name that comes later. -/
def wirelessLogs : List AllocationLog := [
  ⟨⟨5⟩, ⟨2⟩, [⟨⟨0, ⟨0⟩, ⟨1⟩, .tcp, ⟨1⟩, ⟨1⟩⟩, .wired⟩, ⟨⟨0, ⟨2⟩, ⟨0⟩, .tcp, ⟨1⟩, ⟨1⟩⟩, .wireless⟩]⟩,
  ⟨⟨5⟩, ⟨10⟩, [⟨⟨4, ⟨1⟩, ⟨2⟩, .tcp, ⟨1⟩, ⟨1⟩⟩, .wireless⟩]⟩]

/-- A disk with a directory that has these logs and another file in it. -/
def wirelessDisk : Disk := ((⟨∅, []⟩ : Disk).put ["l"] .directory).putFiles ["l"]
  (("alloc__05_0.dat", "") :: wirelessLogs.map AllocationLog.file)

theorem find_wirelessDisk : wirelessDisk.find ⟨"l"⟩ = .ok (["l"], .directory) :=
  toOption_eq_some_iff.mp (by decide +kernel)

theorem readAllocationLog_wirelessDisk {log : AllocationLog} (hlog : log ∈ wirelessLogs) :
    wirelessDisk.readAllocationLog (Path.join ⟨"l"⟩ log.id.allocationLogName) = .ok log := by
  have hpaths : ∀ log ∈ wirelessLogs,
      (Path.join ⟨"l"⟩ log.id.allocationLogName).textFault? = none := by decide +kernel
  have hlabels : ∀ log ∈ wirelessLogs, ∀ allocated ∈ log.flows, allocated.flow.label = .tcp := by
    decide
  refine Disk.readAllocationLog_eq_ok (fun allocated hmem => ?_) ?_
  · rw [hlabels log hlog allocated hmem]
    exact Label.isStorable_tcp
  · exact Disk.readText_putFiles find_wirelessDisk (by decide +kernel)
      (List.mem_cons_of_mem _ (List.mem_map_of_mem hlog)) log.id.isEntryName_allocationLogName
      (hpaths log hlog)

theorem holdsFile_wirelessDisk {id : PairId} :
    HoldsFile (wirelessDisk.children ["l"]) id.allocationLogName ↔
      ∃ log ∈ wirelessLogs, log.id = id := by
  have hkeys : (fileKeys PairId.ofAllocationLogName? (wirelessDisk.children ["l"])).Perm
      (wirelessLogs.map AllocationLog.id) := by decide +kernel
  rw [← mem_fileKeys fun _ _ => PairId.ofAllocationLogName?_eq_some, hkeys.mem_iff, List.mem_map]

/-- The first flow is not wireless, and the flow of the second log is not in the first. -/
theorem tensorBatch_aligned_wirelessDisk :
    ∃ batch, wirelessDisk.tensorBatch ⟨"l"⟩ 3 = .ok batch ∧
      wirelessDisk.Aligned ⟨"l"⟩ (wirelessDisk.children ["l"]) 3 batch ∧
      batch.ids = [⟨⟨5⟩, ⟨2⟩⟩, ⟨⟨5⟩, ⟨10⟩⟩] ∧
      batch.tensors.inputs.at? [0, 0, 0, 1] = some true ∧
      batch.tensors.labels.at? [0, 1, 0] = some false ∧
      batch.tensors.labels.at? [0, 6, 0] = some true ∧
      batch.tensors.inputs.at? [0, 0, 1, 2] = some false ∧
      batch.tensors.inputs.at? [1, 0, 1, 2] = some true := by
  have hwithin : ∀ log ∈ wirelessLogs, ∀ allocated ∈ log.flows, allocated.flow.Within 3 := by
    decide
  obtain ⟨halign, -⟩ := @Disk.tensorBatch_aligned 3 wirelessDisk ⟨"l"⟩ _
    (Disk.list_eq_ok.mpr ⟨["l"], find_wirelessDisk, rfl⟩) (by decide +kernel)
  obtain ⟨batch, hbatch, haligned⟩ := halign fun id hfile => by
    obtain ⟨log, hlog, rfl⟩ := holdsFile_wirelessDisk.mp hfile
    exact ⟨log, readAllocationLog_wirelessDisk hlog, hwithin log hlog⟩
  have hids : batch.ids = wirelessLogs.map AllocationLog.id :=
    haligned.increasing.eq_of_mem_iff (by decide) fun id => by
      rw [haligned.mem_ids, holdsFile_wirelessDisk, List.mem_map]
  have hentry : ∀ (k : Nat) log, wirelessLogs[k]? = some log → batch.ids[k]? = some log.id ∧
      wirelessDisk.readAllocationLog (Path.join ⟨"l"⟩ log.id.allocationLogName) = .ok log := by
    intro k log hk
    refine ⟨?_, readAllocationLog_wirelessDisk (List.mem_of_getElem? hk)⟩
    rw [hids, List.getElem?_map, hk]
    rfl
  have hinput : ∀ (k : Nat) log, wirelessLogs[k]? = some log → ∀ i < 3, ∀ j < 3,
      batch.tensors.inputs.at? [k, 0, i, j] =
        some (decide (∃ allocated ∈ log.flows, allocated.flow.Leads i j)) := fun k log hk =>
    haligned.input k log.id log (hentry k log hk).1 (hentry k log hk).2
  have hlabel : ∀ (k : Nat) log, wirelessLogs[k]? = some log → ∀ i < 3, ∀ j < 3,
      batch.tensors.labels.at? [k, i * 3 + j, 0] = some (decide (∃ allocated ∈ log.flows,
        allocated.link.isWireless = true ∧ allocated.flow.Leads i j)) := fun k log hk =>
    haligned.label k log.id log (hentry k log hk).1 (hentry k log hk).2
  exact ⟨batch, hbatch, haligned, hids, hinput 0 _ rfl 0 (by decide) 1 (by decide),
    hlabel 0 _ rfl 0 (by decide) 1 (by decide), hlabel 0 _ rfl 2 (by decide) 0 (by decide),
    hinput 0 _ rfl 1 (by decide) 2 (by decide), hinput 1 _ rfl 1 (by decide) 2 (by decide)⟩

end RackTraffic
