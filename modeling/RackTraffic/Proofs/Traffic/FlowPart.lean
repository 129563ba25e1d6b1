import RackTraffic.Proofs.Traffic.Grammar
import RackTraffic.Proofs.Traffic.Reading

/-!
# The flows of an allocation log

An allocation log may be read as a flow log. On a line of seven fields both readers read the same
flow from the first six, and then only the reader of allocated flows goes on to the link
(`AllocatedFlow.ofLine_eq_bind`). The reader of flows never reports a link
(`Flow.field?_ne_link_of_ofLine`), so what is reported tells the two ways to fail apart: at the
flow, where the readers agree, or at the link, where the flow has been read.

**Theorem (`allocations_read_asFlows`).** Where allocated flows are read, from a line or from a
text, their flows are read. Where a line of seven fields is no allocated flow, the same fault is
found in its flow, unless it is a fault of the link.
-/

namespace RackTraffic

/-- The field that a fault reports. -/
def Malformed.field? : Malformed → Option Field
  | .invalidField field _ => some field
  | _ => none

section

variable {checks : List FieldCheck} {line : List Char} {fault : Malformed}

/-- A check that fails reports its own field. -/
theorem FirstFault.exists_check (h : FirstFault checks fault) :
    ∃ check ∈ checks, fault.field? = some check.field := by
  induction h with
  | here h => exact ⟨_, List.mem_cons_self, rfl⟩
  | later h hrest ih =>
    obtain ⟨check, hmem, hfield⟩ := ih
    exact ⟨check, List.mem_cons_of_mem _ hmem, hfield⟩

theorem Flow.field_ne_link_of_mem_checks {timeStep source destination size rate : List Char}
    {check : FieldCheck} (h : check ∈ Flow.checks timeStep source destination size rate) :
    check.field ≠ .link := by
  revert check
  simp [Flow.checks, FieldCheck.word, FieldCheck.amount]

/-- A flow has no link to report. -/
theorem Flow.field?_ne_link_of_ofLine (h : Flow.ofLine line = .error fault) :
    fault.field? ≠ some .link := by
  generalize hfields : lineFields line = fields
  have hreads := hfields ▸ ofLine_eq_iff.mp h
  cases hreads with
  | faulty hfault =>
    obtain ⟨check, hmem, hfield⟩ := hfault.exists_check
    rw [hfield]
    exact fun heq => field_ne_link_of_mem_checks hmem (Option.some.inj heq)
  | short hshort => exact nofun

theorem field?_of_readField {ε α : Type} {field : Field} {read : List Char → Except ε α}
    {s : List Char}
    (h : readField field read s = .error fault) : fault.field? = some field := by
  obtain ⟨_, -, rfl⟩ := mapError_eq_error.mp h
  rfl

/-- On a line of seven fields an allocated flow is a flow and then a link. -/
theorem AllocatedFlow.ofLine_eq_bind (h : (lineFields line).length = 7) :
    ∃ link, AllocatedFlow.ofLine line = do
      let flow ← Flow.ofLine line
      let code ← readField .link Integer.readInt64 link
      return { flow, link := .ofCode code } := by
  match hfields : lineFields line, h with
  | [_, _, _, _, _, _, link], _ =>
    refine ⟨link, ?_⟩
    rw [AllocatedFlow.ofLine, Flow.ofLine, hfields]

/-- A fault that is not one of the link is one of the flow. -/
theorem AllocatedFlow.flow_ofLine_of_error (h : (lineFields line).length = 7)
    (herror : AllocatedFlow.ofLine line = .error fault) :
    if fault.field? = some .link then ∃ flow, Flow.ofLine line = .ok flow
    else Flow.ofLine line = .error fault := by
  obtain ⟨link, hbind⟩ := ofLine_eq_bind h
  rw [hbind] at herror
  rcases bind_eq_error.mp herror with hflow | ⟨flow, hflow, hlink⟩
  · rwa [if_neg (Flow.field?_ne_link_of_ofLine hflow)]
  · rcases bind_eq_error.mp hlink with hcode | ⟨_, _, hpure⟩
    · rw [if_pos (field?_of_readField hcode)]
      exact ⟨flow, hflow⟩
    · cases hpure

/-- The flows of an allocation log are read from the same text. -/
theorem AllocationLog.flows_ofText {scenario : ScenarioId} {variant : VariantId} {text : String}
    {log : AllocationLog} (h : AllocationLog.ofText scenario variant text = .ok log) :
    FlowLog.ofText scenario text = .ok ⟨log.scenario, log.flows.map AllocatedFlow.flow⟩ ∧
      log.scenario = scenario := by
  rw [ofText_eq_map] at h
  obtain ⟨records, hrecords, rfl⟩ := map_eq_ok.mp h
  rw [readRecords_eq_ok_iff AllocatedFlow.ofLine_trimEnd] at hrecords
  have hflows : readRecords Flow.ofLine text = .ok (records.map AllocatedFlow.flow) := by
    rw [readRecords_eq_ok_iff Flow.ofLine_trimEnd, List.forall₂_map_right_iff]
    exact hrecords.imp fun _ _ => AllocatedFlow.flow_ofLine
  refine ⟨?_, rfl⟩
  rw [FlowLog.ofText_eq_map, hflows]
  rfl

end

/-- **Allocation logs are read as flow logs.** The flow of an allocated flow is read from the same
line, and the flows of an allocation log from the same text, in order and for the same scenario. If
a line of seven fields is not read as an allocated flow, then it is read as a flow if the link is at
fault, and otherwise the same fault is found in it. -/
theorem allocations_read_asFlows :
    (∀ line allocated, AllocatedFlow.ofLine line = .ok allocated →
      Flow.ofLine line = .ok allocated.flow) ∧
    (∀ scenario variant text log, AllocationLog.ofText scenario variant text = .ok log →
      FlowLog.ofText scenario text = .ok ⟨log.scenario, log.flows.map AllocatedFlow.flow⟩ ∧
        log.scenario = scenario) ∧
    ∀ line fault, (lineFields line).length = 7 → AllocatedFlow.ofLine line = .error fault →
      if fault.field? = some .link then ∃ flow, Flow.ofLine line = .ok flow
      else Flow.ofLine line = .error fault := by
  refine ⟨fun line allocated h => ?line, fun scenario variant text log h => ?text,
    fun line fault hseven herror => ?fault⟩
  case line => exact AllocatedFlow.flow_ofLine h
  case text => exact AllocationLog.flows_ofText h
  case fault => exact AllocatedFlow.flow_ofLine_of_error hseven herror

/-- Two allocated flows between blank lines. The link of the second is neither wired nor wireless.
-/
def twoAllocations : String := "\n0 0 1 x 5 1Gbps +1\r\n\t\n1 1 0 Tcp 6 2Gbps 7 "

/-- A wrong link does not matter to a flow; a wrong rate in front of it is what both readers report.
-/
theorem allocations_read_asFlows_wrongLinks :
    (∃ allocated, AllocatedFlow.ofLine "1 1 0 Tcp 6 2Gbps 7 ".toList = .ok allocated ∧
      Flow.ofLine "1 1 0 Tcp 6 2Gbps 7 ".toList = .ok allocated.flow) ∧
    (∃ log, AllocationLog.ofText ⟨4⟩ ⟨2⟩ twoAllocations = .ok log ∧
      FlowLog.ofText ⟨4⟩ twoAllocations = .ok ⟨⟨4⟩, log.flows.map AllocatedFlow.flow⟩) ∧
    ((lineFields "1 1 0 Tcp 6 2Gbps 7.0".toList).length = 7 ∧
      AllocatedFlow.ofLine "1 1 0 Tcp 6 2Gbps 7.0".toList = .error (.invalidField .link "7.0") ∧
      ∃ flow, Flow.ofLine "1 1 0 Tcp 6 2Gbps 7.0".toList = .ok flow) ∧
    (lineFields "1 1 0 Tcp 6 2Mbps x".toList).length = 7 ∧
      AllocatedFlow.ofLine "1 1 0 Tcp 6 2Mbps x".toList = .error (.invalidField .rate "2Mbps") ∧
      Flow.ofLine "1 1 0 Tcp 6 2Mbps x".toList = .error (.invalidField .rate "2Mbps") := by
  obtain ⟨hline, htext, hfault⟩ := allocations_read_asFlows
  have hread : AllocatedFlow.ofLine "1 1 0 Tcp 6 2Gbps 7 ".toList =
      .ok ⟨⟨1, ⟨1⟩, ⟨0⟩, .tcp, ⟨6⟩, ⟨2⟩⟩, .ofCode 7⟩ := by decide +kernel
  have hlog : AllocationLog.ofText ⟨4⟩ ⟨2⟩ twoAllocations =
      .ok ⟨⟨4⟩, ⟨2⟩, [⟨⟨0, ⟨0⟩, ⟨1⟩, .other "x", ⟨5⟩, ⟨1⟩⟩, .wireless⟩,
        ⟨⟨1, ⟨1⟩, ⟨0⟩, .tcp, ⟨6⟩, ⟨2⟩⟩, .ofCode 7⟩]⟩ := by decide +kernel
  have hlink : AllocatedFlow.ofLine "1 1 0 Tcp 6 2Gbps 7.0".toList =
      .error (.invalidField .link "7.0") := by decide +kernel
  have hrate : AllocatedFlow.ofLine "1 1 0 Tcp 6 2Mbps x".toList =
      .error (.invalidField .rate "2Mbps") := by decide +kernel
  refine ⟨⟨_, hread, hline _ _ hread⟩, ⟨_, hlog, (htext _ _ _ _ hlog).1⟩, ?_, ?_⟩
  · exact ⟨by decide +kernel, hlink, hfault _ _ (by decide +kernel) hlink⟩
  · exact ⟨by decide +kernel, hrate, hfault _ _ (by decide +kernel) hrate⟩

end RackTraffic
