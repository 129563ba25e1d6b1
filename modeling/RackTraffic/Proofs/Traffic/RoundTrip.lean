import RackTraffic.Proofs.Traffic.Grammar
import RackTraffic.Proofs.Traffic.Reading
import RackTraffic.Proofs.Traffic.Storage

/-!
# What is read back

What is written is read back unless a label forbids it (`Flow.ofLine_line`, `FlowLog.ofText_text`).
The converse holds too, because of what can be read at all: a label is read from a field, so it has
no space in it, and in a log it is read from a line, so it has no line feed in it either; and no
other label than `tcp` is read from what `tcp` is written as.

**Theorem (`Flow.readsBack_iff`).** A flow is read back from its line if and only if its label can
be told from what stands around it and from `tcp` (`Label.Avoids`), with a link and without one.

**Theorem (`logs_readBack`).** A log is read back from its text if and only if all its labels can
be. So whatever is read from a text is read back when it is written, and a log with such labels is
read back from the file that it is stored in.
-/

namespace RackTraffic

open Text

/-! ## Labels -/

/-- A label is `tcp`, or it is not written like `tcp` and has none of the given characters in it. -/
def Label.Avoids (separators : List Char) : Label → Prop
  | .tcp => True
  | .other text => (∀ c ∈ separators, c ∉ text.toList) ∧ text ≠ tcpText

theorem Label.avoids_iff {separators : List Char} {label : Label}
    (htcp : ∀ c ∈ separators, c ∉ tcpText.toList) :
    label.Avoids separators ↔
      (∀ c ∈ separators, c ∉ label.text.toList) ∧ Label.ofText label.text = label := by
  cases label with
  | tcp => simpa [Avoids, text, ofText] using htcp
  | other text => by_cases h : text = tcpText <;> simp [Avoids, Label.text, ofText, h]

theorem Label.isReadable_iff {label : Label} : label.IsReadable ↔ label.Avoids [' '] := by
  rw [avoids_iff (by simp [tcpText])]
  exact ⟨fun h => ⟨by simpa using h.no_space, h.ofText_text⟩, fun h => ⟨by simpa using h.1, h.2⟩⟩

theorem Label.isStorable_iff {label : Label} : label.IsStorable ↔ label.Avoids [' ', '\n'] := by
  rw [avoids_iff (by simp [tcpText])]
  constructor
  · intro h
    exact ⟨by simpa using ⟨h.no_space, h.no_feed⟩, h.ofText_text⟩
  · rintro ⟨hnot, htext⟩
    obtain ⟨hspace, hfeed⟩ : ' ' ∉ label.text.toList ∧ '\n' ∉ label.text.toList := by
      simpa using hnot
    exact ⟨⟨hspace, htext⟩, hfeed⟩

/-! ## Lines -/

/-- **A flow is read back from its line if and only if its label avoids spaces.** The same holds
with any link, and a link that is given by its code comes back as the link of this code. -/
theorem Flow.readsBack_iff (flow : Flow) :
    (Flow.ofLine flow.line = .ok flow ↔ flow.label.Avoids [' ']) ∧
    (∀ link, AllocatedFlow.ofLine (AllocatedFlow.line ⟨flow, link⟩) = .ok ⟨flow, link⟩ ↔
      flow.label.Avoids [' ']) ∧
    ∀ code, flow.label.Avoids [' '] →
      AllocatedFlow.ofLine (joinFields (flow.fields ++ [Integer.ofInt64 code])) =
        .ok ⟨flow, .ofCode code⟩ := by
  simp only [← Label.isReadable_iff]
  refine ⟨⟨Flow.isReadable_of_ofLine, Flow.ofLine_line⟩, fun link => ⟨fun h => ?_, fun h => ?_⟩,
    fun code h => ?_⟩
  · exact Flow.isReadable_of_ofLine (AllocatedFlow.flow_ofLine h)
  · exact AllocatedFlow.ofLine_line h
  · have hread := @AllocatedFlow.ofLine_line ⟨flow, .ofCode code⟩ h
    rwa [AllocatedFlow.line, Link.code_ofCode] at hread

/-- A flow with a given label. -/
def Flow.labelled (text : String) : Flow :=
  { timeStep := 0, source := ⟨1⟩, destination := ⟨2⟩, label := .other text, size := ⟨5⟩
    rate := ⟨1⟩ }

/-- Blanks other than spaces do not matter within a label. -/
theorem Flow.readsBack_tab : (labelled "a\tb").label.Avoids [' '] ∧
    AllocatedFlow.ofLine (joinFields ((labelled "a\tb").fields ++ [Integer.ofInt64 (-3)])) =
      .ok ⟨labelled "a\tb", .ofCode (-3)⟩ ∧
    Flow.ofLine (labelled "a b").line ≠ .ok (labelled "a b") := by
  have havoids : (labelled "a\tb").label.Avoids [' '] := by
    simp [labelled, Label.Avoids, Label.tcpText]
  refine ⟨havoids, (readsBack_iff _).2.2 (-3) havoids, fun h => ?_⟩
  simpa [labelled, Label.Avoids] using (readsBack_iff _).1.mp h

/-! ## Texts -/

section

variable {α : Type} {read : List Char → Except Malformed α} {records : List α}

/-- Each record of a text is read from a line that has no line feed in it. -/
theorem exists_line_of_readRecords {text : String} (h : readRecords read text = .ok records)
    {record : α} (hrecord : record ∈ records) : ∃ line, '\n' ∉ line ∧ read line = .ok record := by
  obtain ⟨⟨line, number⟩, hmem, hread⟩ := exists_mem_of_forall₂ (readLines_eq_ok_iff.mp h) hrecord
  have hline : line ∈ lines text.toList := List.fst_mem_of_mem_zipIdx (List.mem_filter.mp hmem).1
  exact ⟨line, Text.no_feed_of_mem_lines hline, hread⟩

end

theorem Flow.isStorable_of_ofLine {line : List Char} {flow : Flow} (hline : '\n' ∉ line)
    (h : Flow.ofLine line = .ok flow) : flow.label.IsStorable := by
  refine ⟨isReadable_of_ofLine h, fun hfeed => ?_⟩
  exact hline (mem_of_mem_lineFields (label_mem_lineFields h).1 hfeed).1

/-! ## Logs -/

variable {scenario : ScenarioId} {variant : VariantId} {text : String}

theorem FlowLog.ofText_eq_ok_iff {log : FlowLog} :
    FlowLog.ofText scenario text = .ok log ↔
      log.scenario = scenario ∧ readRecords Flow.ofLine text = .ok log.flows := by
  rw [FlowLog.ofText, bind_eq_ok]
  constructor
  · rintro ⟨flows, hread, h⟩
    cases h
    exact ⟨rfl, hread⟩
  · rintro ⟨rfl, hread⟩
    exact ⟨log.flows, hread, rfl⟩

theorem AllocationLog.ofText_eq_ok_iff {log : AllocationLog} :
    AllocationLog.ofText scenario variant text = .ok log ↔
      log.id = ⟨scenario, variant⟩ ∧ readRecords AllocatedFlow.ofLine text = .ok log.flows := by
  rw [AllocationLog.ofText, bind_eq_ok]
  constructor
  · rintro ⟨flows, hread, h⟩
    cases h
    exact ⟨rfl, hread⟩
  · rintro ⟨hid, hread⟩
    cases hid
    exact ⟨log.flows, hread, rfl⟩

/-- The labels of a log that is read can be stored. -/
theorem FlowLog.isStorable_of_ofText {log : FlowLog} (h : FlowLog.ofText scenario text = .ok log) :
    ∀ flow ∈ log.flows, flow.label.IsStorable := by
  intro flow hflow
  obtain ⟨line, hline, hread⟩ := exists_line_of_readRecords (ofText_eq_ok_iff.mp h).2 hflow
  exact Flow.isStorable_of_ofLine hline hread

theorem AllocationLog.isStorable_of_ofText {log : AllocationLog}
    (h : AllocationLog.ofText scenario variant text = .ok log) :
    ∀ allocated ∈ log.flows, allocated.flow.label.IsStorable := by
  intro allocated hmem
  obtain ⟨line, hline, hread⟩ := exists_line_of_readRecords (ofText_eq_ok_iff.mp h).2 hmem
  exact Flow.isStorable_of_ofLine hline (AllocatedFlow.flow_ofLine hread)

/-! ## Stored logs -/

variable {directory path : Path} {d e : Disk}

/-- A stored flow log is read from the path that storing it returns. -/
theorem FlowLog.readFlowLog_of_store {log : FlowLog}
    (hlabels : ∀ flow ∈ log.flows, flow.label.IsStorable)
    (h : log.store directory d = (.ok path, e)) : e.readFlowLog path = .ok log := by
  have hwrote := wrote_of_store h
  obtain ⟨u, d', -, hpath⟩ := DiskAction.bind_eq_ok.mp h
  cases hpath
  exact Disk.readFlowLog_eq_ok hlabels (hwrote.readText (by simp)
    log.scenario.isEntryName_flowLogName List.mem_cons_self)

/-- A stored allocation log, too. -/
theorem AllocationLog.readAllocationLog_of_store {log : AllocationLog}
    (hlabels : ∀ allocated ∈ log.flows, allocated.flow.label.IsStorable)
    (h : log.store directory d = (.ok path, e)) : e.readAllocationLog path = .ok log := by
  have hwrote := wrote_of_store h
  obtain ⟨u, d', -, hpath⟩ := DiskAction.bind_eq_ok.mp h
  cases hpath
  exact Disk.readAllocationLog_eq_ok hlabels (hwrote.readText (by simp)
    log.id.isEntryName_allocationLogName List.mem_cons_self)

/-- **A log is read back if and only if its labels avoid spaces and line feeds.** Then it is also
read back from the file that it is stored in, with its scenario and variant. The labels of a log
that is read from a text always do, so this log is read back. -/
theorem logs_readBack :
    (∀ log : FlowLog, FlowLog.ofText log.scenario log.text = .ok log ↔
      ∀ flow ∈ log.flows, flow.label.Avoids [' ', '\n']) ∧
    (∀ log : AllocationLog, AllocationLog.ofText log.scenario log.variant log.text = .ok log ↔
      ∀ allocated ∈ log.flows, allocated.flow.label.Avoids [' ', '\n']) ∧
    (∀ scenario text log, FlowLog.ofText scenario text = .ok log →
      FlowLog.ofText scenario log.text = .ok log) ∧
    (∀ scenario variant text log, AllocationLog.ofText scenario variant text = .ok log →
      AllocationLog.ofText scenario variant log.text = .ok log) ∧
    (∀ (log : FlowLog) (directory path : Path) (d e : Disk),
      (∀ flow ∈ log.flows, flow.label.Avoids [' ', '\n']) →
      log.store directory d = (.ok path, e) → e.readFlowLog path = .ok log) ∧
    ∀ (log : AllocationLog) (directory path : Path) (d e : Disk),
      (∀ allocated ∈ log.flows, allocated.flow.label.Avoids [' ', '\n']) →
      log.store directory d = (.ok path, e) → e.readAllocationLog path = .ok log := by
  simp only [← Label.isStorable_iff]
  refine ⟨fun log => ⟨FlowLog.isStorable_of_ofText, FlowLog.ofText_text⟩,
    fun log => ⟨AllocationLog.isStorable_of_ofText, AllocationLog.ofText_text⟩,
    fun scenario text log h => ?_, fun scenario variant text log h => ?_,
    fun log directory path d e hlabels h => FlowLog.readFlowLog_of_store hlabels h,
    fun log directory path d e hlabels h => AllocationLog.readAllocationLog_of_store hlabels h⟩
  · obtain ⟨rfl, -⟩ := FlowLog.ofText_eq_ok_iff.mp h
    exact FlowLog.ofText_text (FlowLog.isStorable_of_ofText h)
  · obtain ⟨hid, -⟩ := AllocationLog.ofText_eq_ok_iff.mp h
    cases hid
    exact AllocationLog.ofText_text (AllocationLog.isStorable_of_ofText h)

/-- A disk with an empty directory. -/
def emptyDirectory : Disk := (⟨∅, []⟩ : Disk).put ["o"] .directory

theorem logs_readBack_return : ∃ path e,
    FlowLog.store ⟨⟨3⟩, [.labelled "a\r"]⟩ ⟨"o"⟩ emptyDirectory = (.ok path, e) ∧
      e.readFlowLog path = .ok ⟨⟨3⟩, [.labelled "a\r"]⟩ := by
  have hstore : (FlowLog.store ⟨⟨3⟩, [.labelled "a\r"]⟩ ⟨"o"⟩ emptyDirectory).1 =
      .ok ⟨"o/flows__3.dat"⟩ := by decide +kernel
  refine ⟨_, _, Prod.ext hstore rfl, ?_⟩
  exact logs_readBack.2.2.2.2.1 _ ⟨"o"⟩ _ emptyDirectory _
    (by simp [Flow.labelled, Label.Avoids, Label.tcpText]) (Prod.ext hstore rfl)

end RackTraffic
