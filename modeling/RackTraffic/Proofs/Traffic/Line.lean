import RackTraffic.Proofs.Text.Blank
import RackTraffic.Proofs.Traffic.Name
import RackTraffic.Traffic.Line

/-!
# Lines are read back as they are written

A flow is written as six fields, of which only the label can hold anything but digits and the
letters of a unit. So if the label has no space in it and is not written like another label
(`Label.IsReadable`), the line splits into the fields that it was made of (`lineFields_joinFields`),
and every field is read back: `Flow.ofLine_line` and `AllocatedFlow.ofLine_line`.
-/

namespace RackTraffic

open Text

/-! ## Fields -/

theorem joinFields_cons (field : List Char) {fields : List (List Char)} (h : fields ≠ []) :
    joinFields (field :: fields) = field ++ ' ' :: joinFields fields := by
  rw [joinFields, List.intercalate_cons_of_ne_nil h, List.append_assoc]
  rfl

/-- The last character of a line of fields is that of the last field. -/
theorem exists_joinFields_eq_concat (fields : List (List Char)) (field : List Char) (c : Char) :
    ∃ s, joinFields (fields ++ [field ++ [c]]) = s ++ [c] := by
  induction fields with
  | nil => exact ⟨field, by simp [joinFields]⟩
  | cons first fields ih =>
    obtain ⟨s, hs⟩ := ih
    refine ⟨first ++ ' ' :: s, ?_⟩
    rw [List.cons_append, joinFields_cons first (by simp), hs]
    simp

theorem notMem_joinFields {c : Char} (hc : c ≠ ' ') {fields : List (List Char)}
    (h : ∀ field ∈ fields, c ∉ field) : c ∉ joinFields fields := by
  induction fields with
  | nil => simp [joinFields]
  | cons field fields ih =>
    obtain ⟨hfield, hfields⟩ := List.forall_mem_cons.mp h
    rcases eq_or_ne fields [] with rfl | hne
    · simpa [joinFields] using hfield
    · rw [joinFields_cons field hne]
      simp [hfield, hc, ih hfields]

/-- A line splits into the fields that it is made of, if they have no spaces and the last one does
not end in a blank. -/
theorem lineFields_joinFields {fields : List (List Char)} {field : List Char} {c : Char}
    (hspace : ∀ field' ∈ fields ++ [field ++ [c]], ' ' ∉ field') (hc : isBlank c = false) :
    lineFields (joinFields (fields ++ [field ++ [c]])) = fields ++ [field ++ [c]] := by
  obtain ⟨s, hs⟩ := exists_joinFields_eq_concat fields field c
  rw [lineFields, hs, Text.trimEnd_concat s hc, ← hs]
  exact List.splitOn_intercalate ' ' hspace (by simp)

/-- A field that is read without a fault. -/
theorem readField_eq_ok {ε α : Type} {field : Field} {read : List Char → Except ε α}
    {s : List Char} {a : α} (h : read s = .ok a) : readField field read s = .ok a := by
  rw [readField, h]
  rfl

theorem TrafficUnit.read_write (unit : TrafficUnit) (n : UInt64) :
    unit.read (unit.write n) = .ok n := by
  rw [read, write, Text.dropSuffix?_append]
  simp [Integer.readUInt64_ofUInt64, Except.mapError]

/-! ## Flows -/

/-- A label that is read back from the text that it is written as. -/
structure Label.IsReadable (label : Label) : Prop where
  no_space : ' ' ∉ label.text.toList
  ofText_text : Label.ofText label.text = label

theorem Label.isReadable_tcp : Label.IsReadable .tcp := ⟨by decide, by decide⟩

theorem Flow.ofFields_fields {flow : Flow} (h : flow.label.IsReadable) :
    Flow.ofFields (Integer.ofUInt64 flow.timeStep) (Integer.ofUInt64 flow.source.index)
      (Integer.ofUInt64 flow.destination.index) flow.label.text.toList
      (TrafficUnit.bytes.write flow.size.count) (TrafficUnit.gbps.write flow.rate.rate) =
        .ok flow := by
  simp [Flow.ofFields, readField_eq_ok (Integer.readUInt64_ofUInt64 _),
    readField_eq_ok (TrafficUnit.read_write _ _), h.ofText_text, bind, Except.bind, pure,
    Except.pure]

theorem notMem_ofUInt64 {c : Char} (h : c.isDigit = false) (n : UInt64) :
    c ∉ Integer.ofUInt64 n := fun hmem => Integer.ne_of_mem_ofUInt64 hmem h rfl

theorem TrafficUnit.notMem_write {c : Char} (h : c.isDigit = false) {unit : TrafficUnit}
    (hsuffix : c ∉ unit.suffix.toList) (n : UInt64) : c ∉ unit.write n := by
  simp [write, notMem_ofUInt64 h n, hsuffix]

/-- Nothing that is neither digit nor letter of a unit stands in a field, except in the label. -/
theorem Flow.notMem_fields {c : Char} (hdigit : c.isDigit = false)
    (hunit : c ∉ TrafficUnit.gbps.suffix.toList) {flow : Flow}
    (hlabel : c ∉ flow.label.text.toList) : ∀ field ∈ flow.fields, c ∉ field := by
  simp only [Flow.fields, List.forall_mem_cons, List.not_mem_nil, false_implies, implies_true,
    and_true]
  exact ⟨notMem_ofUInt64 hdigit _, notMem_ofUInt64 hdigit _, notMem_ofUInt64 hdigit _, hlabel,
    TrafficUnit.notMem_write hdigit (by simp [TrafficUnit.suffix]) _,
    TrafficUnit.notMem_write hdigit hunit _⟩

/-- The last field of a flow ends in the last letter of its unit. -/
theorem Flow.fields_eq_concat (flow : Flow) :
    ∃ fields field, flow.fields = fields ++ [field ++ ['s']] := by
  refine ⟨flow.fields.dropLast, Integer.ofUInt64 flow.rate.rate ++ "Gbp".toList, ?_⟩
  simp [fields, TrafficUnit.write, TrafficUnit.suffix]

/-- **Reading undoes writing.** -/
theorem Flow.ofLine_line {flow : Flow} (h : flow.label.IsReadable) :
    Flow.ofLine flow.line = .ok flow := by
  have hspace := flow.notMem_fields (c := ' ') (by decide) (by decide) h.no_space
  obtain ⟨fields, field, hfields⟩ := flow.fields_eq_concat
  have hsplit : lineFields flow.line = flow.fields := by
    rw [hfields] at hspace
    rw [Flow.line, hfields, lineFields_joinFields hspace (by decide)]
  rw [Flow.ofLine, hsplit]
  exact Flow.ofFields_fields h

/-! ## Allocated flows -/

theorem Integer.notMem_ofInt64 {c : Char} (hdigit : c.isDigit = false) (hminus : c ≠ '-')
    (n : Int64) : c ∉ Integer.ofInt64 n := by
  intro hmem
  rcases isDigit_or_eq_of_mem_ofInt64 hmem with h | h
  · simp [h] at hdigit
  · exact hminus h

theorem Integer.exists_ofInt64_eq_concat (n : Int64) :
    ∃ s c, Integer.ofInt64 n = s ++ [c] ∧ c.isDigit := by
  have hconcat : ∀ m : Nat, ∃ s c, Integer.ofNat m = s ++ [c] ∧ c.isDigit := by
    intro m
    have hlast := List.getLast?_eq_some_getLast (Integer.ofNat_ne_nil m)
    obtain ⟨s, hs⟩ := List.getLast?_eq_some_iff.mp hlast
    exact ⟨s, _, hs, Integer.isDigit_of_mem_ofNat (List.getLast_mem (Integer.ofNat_ne_nil m))⟩
  obtain ⟨s, c, hs, hc⟩ := hconcat n.toInt.natAbs
  unfold Integer.ofInt64 Integer.ofInt
  split_ifs
  · exact ⟨'-' :: s, c, by simp [hs], hc⟩
  · exact ⟨s, c, hs, hc⟩

/-- **Reading undoes writing**, with the link, too. -/
theorem AllocatedFlow.ofLine_line {allocated : AllocatedFlow}
    (h : allocated.flow.label.IsReadable) :
    AllocatedFlow.ofLine allocated.line = .ok allocated := by
  have hspace := allocated.flow.notMem_fields (c := ' ') (by decide) (by decide) h.no_space
  obtain ⟨s, c, hcode, hc⟩ := Integer.exists_ofInt64_eq_concat allocated.link.code
  have hsplit : lineFields allocated.line =
      allocated.flow.fields ++ [Integer.ofInt64 allocated.link.code] := by
    rw [AllocatedFlow.line, hcode]
    refine lineFields_joinFields (fun field hfield => ?_) (Text.isBlank_of_isDigit hc)
    rcases List.mem_append.mp hfield with hfield | hfield
    · exact hspace field hfield
    · rw [List.mem_singleton.mp hfield, ← hcode]
      exact Integer.notMem_ofInt64 (by decide) (by decide) _
  rw [AllocatedFlow.ofLine, hsplit]
  simp only [Flow.fields, List.cons_append, List.nil_append]
  rw [Flow.ofFields_fields h, readField_eq_ok (Integer.readInt64_ofInt64 _)]
  simp [bind, Except.bind, pure, Except.pure, Link.ofCode_code]

end RackTraffic
