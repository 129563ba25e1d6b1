import RackTraffic.Proofs.Traffic.Line
import RackTraffic.Proofs.Traffic.Reading

/-!
# Logs are read back as they are written

A line of a log has no line feed in it and does not end in a blank (`Text.IsWritten`), so a text
made of such lines has them as its trimmed lines (`Text.trimmedLines_ofLines`). Together with the
lines being read back this gives `FlowLog.ofText_text` and `AllocationLog.ofText_text`: a log is
read back, if its labels are neither split by spaces nor by line feeds (`Label.IsStorable`).
-/

namespace RackTraffic

open Text

/-! ## Records -/

section

variable {α : Type} {read : List Char → Except Malformed α} {write : α → List Char}
  {records : List α}

/-- Records are read back, if each of them is read back and its line stands in a text as it is. -/
theorem readRecords_ofLines (htrim : ∀ line, read (trimEnd line) = read line)
    (h : ∀ record ∈ records, read (write record) = .ok record)
    (hwritten : ∀ record ∈ records, IsWritten (write record)) :
    readRecords read (String.ofList (ofLines (records.map write))) = .ok records := by
  rw [readRecords_eq_ok_iff htrim, String.toList_ofList,
    trimmedLines_ofLines (List.forall_mem_map.mpr hwritten), List.forall₂_map_left_iff,
    List.forall₂_same]
  exact h

end

/-! ## Logs -/

/-- A label that is read back from a line of a log. -/
structure Label.IsStorable (label : Label) : Prop extends label.IsReadable where
  no_feed : '\n' ∉ label.text.toList

theorem Label.isStorable_tcp : Label.IsStorable .tcp := ⟨isReadable_tcp, by decide⟩

theorem Flow.isWritten_line {flow : Flow} (h : flow.label.IsStorable) : IsWritten flow.line := by
  have hfeed := flow.notMem_fields (c := '\n') (by decide) (by decide) h.no_feed
  obtain ⟨fields, field, hfields⟩ := flow.fields_eq_concat
  obtain ⟨s, hs⟩ := exists_joinFields_eq_concat fields field 's'
  refine ⟨notMem_joinFields (by decide) hfeed, s, 's', ?_, by decide⟩
  rw [Flow.line, hfields, hs]

theorem AllocatedFlow.isWritten_line {allocated : AllocatedFlow}
    (h : allocated.flow.label.IsStorable) : IsWritten allocated.line := by
  have hfeed := allocated.flow.notMem_fields (c := '\n') (by decide) (by decide) h.no_feed
  obtain ⟨field, c, hcode, hc⟩ := Integer.exists_ofInt64_eq_concat allocated.link.code
  obtain ⟨s, hs⟩ := exists_joinFields_eq_concat allocated.flow.fields field c
  refine ⟨notMem_joinFields (by decide) fun code hmem => ?_, s, c, ?_, isBlank_of_isDigit hc⟩
  · rcases List.mem_append.mp hmem with hmem | hmem
    · exact hfeed code hmem
    · rw [List.mem_singleton.mp hmem]
      exact Integer.notMem_ofInt64 (by decide) (by decide) _
  · rw [AllocatedFlow.line, hcode, hs]

/-- **Reading undoes writing.** -/
theorem FlowLog.ofText_text {log : FlowLog} (h : ∀ flow ∈ log.flows, flow.label.IsStorable) :
    FlowLog.ofText log.scenario log.text = .ok log := by
  have hread : readRecords Flow.ofLine log.text = .ok log.flows :=
    readRecords_ofLines Flow.ofLine_trimEnd
      (fun flow hflow => Flow.ofLine_line (h flow hflow).toIsReadable)
      fun flow hflow => Flow.isWritten_line (h flow hflow)
  rw [FlowLog.ofText, hread]
  rfl

/-- **Reading undoes writing.** -/
theorem AllocationLog.ofText_text {log : AllocationLog}
    (h : ∀ allocated ∈ log.flows, allocated.flow.label.IsStorable) :
    AllocationLog.ofText log.scenario log.variant log.text = .ok log := by
  have hread : readRecords AllocatedFlow.ofLine log.text = .ok log.flows :=
    readRecords_ofLines AllocatedFlow.ofLine_trimEnd
      (fun allocated hmem => AllocatedFlow.ofLine_line (h allocated hmem).toIsReadable)
      fun allocated hmem => AllocatedFlow.isWritten_line (h allocated hmem)
  rw [AllocationLog.ofText, hread]
  rfl

end RackTraffic
