import RackTraffic.Proofs.Lists
import RackTraffic.Proofs.Text.Numeral
import RackTraffic.Proofs.Traffic.Line

/-!
# The grammar of log lines

A line is fields with one space between any two and blanks behind the last (`IsLineOf`). Five of the
fields of a flow hold numbers, and an allocated flow has the code of its link in a sixth. Each of
these has to spell a number of its kind; what has to be true of the fields, in the order in which
they are read, is a list of *checks*. The first check that fails is the fault (`FirstFault`).

**Theorem (`ofLine_grammar`).** The readers of lines answer as the grammar says (`Flow.Reads`,
`AllocatedFlow.Reads`): on every line with the right number of fields whose checks all hold they
give the values that the fields spell, and on every other line they give the fault, the number of
fields before anything else. What they give is read back from its own line.

The checks of a reader are collected along its sequence of steps (`Judged.bind`), so each field is
looked at once.
-/

namespace RackTraffic

open Text

/-! ## Units -/

theorem Text.dropSuffix?_eq_some_iff {suffix s t : List Char} :
    dropSuffix? suffix s = some t ↔ s = t ++ suffix := by
  constructor
  · intro h
    unfold dropSuffix? at h
    split_ifs at h with hsuffix
    obtain ⟨t', rfl⟩ := List.isSuffixOf_iff_suffix.mp hsuffix
    cases h
    simp
  · rintro rfl
    exact dropSuffix?_append t suffix

/-- A text spells a number of a unit: it spells the number, and the suffix of the unit follows. -/
def TrafficUnit.Spells (unit : TrafficUnit) (n : UInt64) (s : List Char) : Prop :=
  ∃ digits, s = digits ++ unit.suffix.toList ∧ Integer.SpellsNat n.toNat digits

theorem TrafficUnit.read_eq_ok_iff {unit : TrafficUnit} {s : List Char} {n : UInt64} :
    unit.read s = .ok n ↔ unit.Spells n s := by
  constructor
  · intro h
    unfold read at h
    split at h
    · cases h
    · next digits hdrop =>
      exact ⟨digits, dropSuffix?_eq_some_iff.mp hdrop,
        Integer.readUInt64_eq_ok_iff.mp (mapError_eq_ok.mp h)⟩
  · rintro ⟨digits, rfl, h⟩
    rw [read, dropSuffix?_append]
    exact mapError_eq_ok.mpr (Integer.readUInt64_eq_ok_iff.mpr h)

/-! ## Fields -/

/-- A line is made of fields: there is one space between any two of them and none in them, and only
blanks follow what they are joined to. -/
structure IsLineOf (fields : List (List Char)) (line : List Char) : Prop where
  ne_nil : fields ≠ []
  no_space : ∀ field ∈ fields, ' ' ∉ field
  blanks : ∃ blanks, line = joinFields fields ++ blanks ∧ allBlank blanks
  ends : ∀ c, (joinFields fields).getLast? = some c → isBlank c = false

/-- Every line is made of its fields, and of no others. -/
theorem isLineOf_iff {fields : List (List Char)} {line : List Char} :
    IsLineOf fields line ↔ fields = lineFields line := by
  constructor
  · rintro ⟨hne, hspace, ⟨blanks, rfl, hblanks⟩, hends⟩
    have htrim : trimEnd (joinFields fields) = joinFields fields := by
      rcases List.eq_nil_or_concat' (joinFields fields) with hnil | ⟨s, c, hconcat⟩
      · rw [hnil, trimEnd_nil]
      · rw [hconcat, trimEnd_concat s (hends c (by simp [hconcat]))]
    rw [lineFields, trimEnd_append_of_allBlank _ _ hblanks, htrim]
    exact (List.splitOn_intercalate ' ' hspace hne).symm
  · rintro rfl
    have hjoin : joinFields (lineFields line) = trimEnd line := List.intercalate_splitOn ' '
    refine ⟨List.splitOn_ne_nil _ _, fun field hfield hspace => ?_, ?_, fun c hc => ?_⟩
    · exact (mem_of_mem_splitOn hfield hspace).2 rfl
    · rw [hjoin]
      exact eq_trimEnd_append line
    · rw [hjoin] at hc
      exact isBlank_getLast_trimEnd hc

/-! ## Checks -/

/-- What has to be true of the text of a field. -/
structure FieldCheck where
  field : Field
  text : List Char
  Holds : Prop

/-- The fault of the first check that fails. -/
inductive FirstFault : List FieldCheck → Malformed → Prop where
  | here {check : FieldCheck} {rest : List FieldCheck} (h : ¬ check.Holds) :
      FirstFault (check :: rest) (.invalidField check.field (String.ofList check.text))
  | later {check : FieldCheck} {rest : List FieldCheck} {fault : Malformed} (h : check.Holds)
      (hrest : FirstFault rest fault) : FirstFault (check :: rest) fault

section

variable {checks checks' : List FieldCheck} {fault fault' : Malformed}

theorem FirstFault.not_forall (h : FirstFault checks fault) : ¬ ∀ check ∈ checks, check.Holds := by
  induction h with
  | here h => exact fun hall => h (hall _ List.mem_cons_self)
  | later h hrest ih =>
    exact fun hall => ih fun check hmem => hall check (List.mem_cons_of_mem _ hmem)

theorem FirstFault.unique (h : FirstFault checks fault) (h' : FirstFault checks fault') :
    fault = fault' := by
  induction h with
  | here h =>
    cases h' with
    | here => rfl
    | later h' => exact absurd h' h
  | later h hrest ih =>
    cases h' with
    | here h' => exact absurd h h'
    | later h' hrest' => exact ih hrest'

theorem FirstFault.append (h : FirstFault checks fault) (checks' : List FieldCheck) :
    FirstFault (checks ++ checks') fault := by
  induction h with
  | here h => exact .here h
  | later h hrest ih => exact .later h ih

theorem FirstFault.prepend (hall : ∀ check ∈ checks, check.Holds) (h : FirstFault checks' fault) :
    FirstFault (checks ++ checks') fault := by
  induction checks with
  | nil => exact h
  | cons check checks ih =>
    obtain ⟨hcheck, hall⟩ := List.forall_mem_cons.mp hall
    exact .later hcheck (ih hall)

end

/-- An answer is a value that satisfies `p` if all checks hold, and otherwise the first fault. -/
def Judged {α : Type} (checks : List FieldCheck) (p : α → Prop) : Except Malformed α → Prop
  | .ok a => (∀ check ∈ checks, check.Holds) ∧ p a
  | .error fault => FirstFault checks fault

section

variable {α β : Type} {checks checks' : List FieldCheck} {p : α → Prop} {q : β → Prop}

theorem judged_pure {a : α} (h : p a) : Judged [] p (pure a) := ⟨nofun, h⟩

theorem Judged.bind {x : Except Malformed α} {f : α → Except Malformed β} (h : Judged checks p x)
    (hf : ∀ a, p a → Judged checks' q (f a)) : Judged (checks ++ checks') q (x >>= f) := by
  cases x with
  | error fault => exact FirstFault.append h checks'
  | ok a =>
    obtain ⟨hall, ha⟩ := h
    have hrest : Judged checks' q (f a) := hf a ha
    show Judged (checks ++ checks') q (f a)
    cases hfa : f a with
    | error fault =>
      rw [hfa] at hrest
      exact FirstFault.prepend hall hrest
    | ok b =>
      rw [hfa] at hrest
      exact ⟨List.forall_mem_append.mpr ⟨hall, hrest.1⟩, hrest.2⟩

theorem Judged.cases {x : Except Malformed α} (h : Judged checks p x) :
    (∃ a, x = .ok a ∧ p a) ∨ ∃ fault, x = .error fault ∧ FirstFault checks fault := by
  cases x with
  | ok a => exact .inl ⟨a, rfl, h.2⟩
  | error fault => exact .inr ⟨fault, rfl, h⟩

/-- Reading a field is one check: that its text spells something. -/
theorem judged_readField {ε : Type} {field : Field} {read : List Char → Except ε α} {s : List Char}
    (h : ∀ a, read s = .ok a ↔ p a) :
    Judged [⟨field, s, ∃ a, p a⟩] p (readField field read s) := by
  cases hread : read s with
  | error fault =>
    rw [readField, hread]
    refine .here fun hspelled => ?_
    obtain ⟨a, ha⟩ := hspelled
    rw [(h a).mpr ha] at hread
    cases hread
  | ok a =>
    have ha := (h a).mp hread
    rw [readField, hread]
    exact ⟨List.forall_mem_singleton.mpr ⟨a, ha⟩, ha⟩

end

/-! ## Flows -/

/-- A field has to spell an unsigned word. -/
def FieldCheck.word (field : Field) (s : List Char) : FieldCheck :=
  ⟨field, s, ∃ n : UInt64, Integer.SpellsNat n.toNat s⟩

/-- A field has to spell a number of a unit. -/
def FieldCheck.amount (field : Field) (unit : TrafficUnit) (s : List Char) : FieldCheck :=
  ⟨field, s, ∃ n, unit.Spells n s⟩

/-- The field of a link has to spell a signed word. -/
def FieldCheck.link (s : List Char) : FieldCheck :=
  ⟨.link, s, ∃ code : Int64, Integer.SpellsInt code.toInt s⟩

/-- The checks of the fields of a flow. A label may be any text. -/
def Flow.checks (timeStep source destination size rate : List Char) : List FieldCheck :=
  [.word .timeStep timeStep, .word .source source, .word .destination destination,
    .amount .size .bytes size, .amount .rate .gbps rate]

/-- Six fields spell a flow. -/
structure Flow.IsSpelledBy (flow : Flow) (timeStep source destination label size rate : List Char) :
    Prop where
  timeStep : Integer.SpellsNat flow.timeStep.toNat timeStep
  source : Integer.SpellsNat flow.source.index.toNat source
  destination : Integer.SpellsNat flow.destination.index.toNat destination
  label_text : flow.label.text.toList = label
  label_tcp : flow.label = .tcp ↔ label = Label.tcpText.toList
  size : TrafficUnit.bytes.Spells flow.size.count size
  rate : TrafficUnit.gbps.Spells flow.rate.rate rate

/-- Seven fields spell an allocated flow. -/
structure AllocatedFlow.IsSpelledBy (allocated : AllocatedFlow)
    (timeStep source destination label size rate link : List Char) : Prop where
  flow : allocated.flow.IsSpelledBy timeStep source destination label size rate
  link : Integer.SpellsInt allocated.link.code.toInt link

/-- How the fields of a line are read as a flow. -/
inductive Flow.Reads : List (List Char) → Except Malformed Flow → Prop where
  | spelled {timeStep source destination label size rate : List Char} {rest : List (List Char)}
      {flow : Flow} (h : flow.IsSpelledBy timeStep source destination label size rate) :
      Reads (timeStep :: source :: destination :: label :: size :: rate :: rest) (.ok flow)
  | faulty {timeStep source destination label size rate : List Char} {rest : List (List Char)}
      {fault : Malformed}
      (h : FirstFault (Flow.checks timeStep source destination size rate) fault) :
      Reads (timeStep :: source :: destination :: label :: size :: rate :: rest) (.error fault)
  | short {fields : List (List Char)} (h : fields.length < 6) :
      Reads fields (.error (.tooFewFields 6 fields.length))

/-- How the fields of a line are read as an allocated flow. -/
inductive AllocatedFlow.Reads : List (List Char) → Except Malformed AllocatedFlow → Prop where
  | spelled {timeStep source destination label size rate link : List Char}
      {allocated : AllocatedFlow}
      (h : allocated.IsSpelledBy timeStep source destination label size rate link) :
      Reads [timeStep, source, destination, label, size, rate, link] (.ok allocated)
  | faulty {timeStep source destination label size rate link : List Char} {fault : Malformed}
      (h : FirstFault (Flow.checks timeStep source destination size rate ++ [.link link]) fault) :
      Reads [timeStep, source, destination, label, size, rate, link] (.error fault)
  | miscounted {fields : List (List Char)} (h : fields.length ≠ 7) :
      Reads fields (.error (.wrongFieldCount 7 fields.length))

section

variable {timeStep source destination label size rate link line : List Char}
  {fields : List (List Char)} {flow flow' : Flow} {allocated : AllocatedFlow}

theorem Label.text_ofText (text : String) : (Label.ofText text).text = text := by
  unfold ofText
  split_ifs with h
  · exact h.symm
  · rfl

theorem Label.ofText_eq_tcp_iff {text : String} : Label.ofText text = .tcp ↔ text = tcpText := by
  unfold ofText
  split_ifs with h <;> simp [h]

/-- Reading a flow from its fields makes the checks of a flow. -/
theorem Flow.judged_ofFields (timeStep source destination label size rate : List Char) :
    Judged (Flow.checks timeStep source destination size rate)
      (IsSpelledBy · timeStep source destination label size rate)
      (Flow.ofFields timeStep source destination label size rate) := by
  refine .bind (judged_readField fun _ => Integer.readUInt64_eq_ok_iff) fun t ht => ?_
  refine .bind (judged_readField fun _ => Integer.readUInt64_eq_ok_iff) fun s hs => ?_
  refine .bind (judged_readField fun _ => Integer.readUInt64_eq_ok_iff) fun d hd => ?_
  refine .bind (judged_readField fun _ => TrafficUnit.read_eq_ok_iff) fun z hz => ?_
  refine .bind (judged_readField fun _ => TrafficUnit.read_eq_ok_iff) fun r hr => ?_
  exact judged_pure {
    timeStep := ht
    source := hs
    destination := hd
    label_text := by rw [Label.text_ofText, String.toList_ofList]
    label_tcp := by rw [Label.ofText_eq_tcp_iff, ← String.toList_inj, String.toList_ofList]
    size := hz
    rate := hr }

/-- Reading an allocated flow makes one check more. -/
theorem AllocatedFlow.judged_ofFields
    (timeStep source destination label size rate link : List Char) :
    Judged (Flow.checks timeStep source destination size rate ++ [.link link])
      (IsSpelledBy · timeStep source destination label size rate link)
      (do
        let flow ← Flow.ofFields timeStep source destination label size rate
        let code ← readField .link Integer.readInt64 link
        return { flow, link := .ofCode code }) := by
  refine .bind (Flow.judged_ofFields _ _ _ _ _ _) fun flow hflow => ?_
  refine .bind (judged_readField fun _ => Integer.readInt64_eq_ok_iff) fun code hcode => ?_
  exact judged_pure ⟨hflow, by rwa [Link.code_ofCode]⟩

/-! ## Lines -/

theorem Flow.reads_ofLine (line : List Char) : Flow.Reads (lineFields line) (Flow.ofLine line) := by
  unfold Flow.ofLine
  split
  · next timeStep source destination label size rate rest hfields =>
    rw [hfields]
    rcases (Flow.judged_ofFields timeStep source destination label size rate).cases with
      ⟨flow, hread, hflow⟩ | ⟨fault, hread, hfault⟩
    · rw [hread]
      exact .spelled hflow
    · rw [hread]
      exact .faulty hfault
  · next hshort =>
    refine .short (Nat.lt_of_not_le fun hlong => ?_)
    match hfields : lineFields line, hlong with
    | timeStep :: source :: destination :: label :: size :: rate :: rest, _ =>
      exact hshort _ _ _ _ _ _ _ hfields

theorem AllocatedFlow.reads_ofLine (line : List Char) :
    AllocatedFlow.Reads (lineFields line) (AllocatedFlow.ofLine line) := by
  unfold AllocatedFlow.ofLine
  split
  · next timeStep source destination label size rate link hfields =>
    rw [hfields]
    have hjudged :=
      AllocatedFlow.judged_ofFields timeStep source destination label size rate link
    rcases hjudged.cases with ⟨allocated, hread, hallocated⟩ | ⟨fault, hread, hfault⟩
    · rw [hread]
      exact .spelled hallocated
    · rw [hread]
      exact .faulty hfault
  · next hcount =>
    refine .miscounted fun hseven => ?_
    match hfields : lineFields line, hseven with
    | [timeStep, source, destination, label, size, rate, link], _ =>
      exact hcount _ _ _ _ _ _ _ hfields

/-! ## One answer for each line -/

theorem word_unique {m n : UInt64} {s : List Char} (hm : Integer.SpellsNat m.toNat s)
    (hn : Integer.SpellsNat n.toNat s) : m = n :=
  Except.ok.inj
    ((Integer.readUInt64_eq_ok_iff.mpr hm).symm.trans (Integer.readUInt64_eq_ok_iff.mpr hn))

theorem code_unique {m n : Int64} {s : List Char} (hm : Integer.SpellsInt m.toInt s)
    (hn : Integer.SpellsInt n.toInt s) : m = n :=
  Except.ok.inj
    ((Integer.readInt64_eq_ok_iff.mpr hm).symm.trans (Integer.readInt64_eq_ok_iff.mpr hn))

theorem TrafficUnit.Spells.unique {unit : TrafficUnit} {m n : UInt64} {s : List Char}
    (hm : unit.Spells m s) (hn : unit.Spells n s) : m = n :=
  Except.ok.inj ((read_eq_ok_iff.mpr hm).symm.trans (read_eq_ok_iff.mpr hn))

theorem Label.eq_of_text_eq {label label' : Label} (htext : label.text = label'.text)
    (htcp : label = .tcp ↔ label' = .tcp) : label = label' := by
  cases label with
  | tcp => exact (htcp.mp rfl).symm
  | other text =>
    cases label' with
    | tcp => exact htcp.mpr rfl
    | other text' => exact congrArg Label.other htext

theorem Flow.IsSpelledBy.unique
    (h : flow.IsSpelledBy timeStep source destination label size rate)
    (h' : flow'.IsSpelledBy timeStep source destination label size rate) : flow = flow' := by
  have htext : flow.label.text = flow'.label.text :=
    String.toList_inj.mp (h.label_text.trans h'.label_text.symm)
  have hlabel := Label.eq_of_text_eq htext (h.label_tcp.trans h'.label_tcp.symm)
  have hsource : flow.source = flow'.source :=
    congrArg Rack.mk (word_unique h.source h'.source)
  have hdestination : flow.destination = flow'.destination :=
    congrArg Rack.mk (word_unique h.destination h'.destination)
  have hsize : flow.size = flow'.size := congrArg Bytes.mk (h.size.unique h'.size)
  have hrate : flow.rate = flow'.rate := congrArg Gbps.mk (h.rate.unique h'.rate)
  have htime := word_unique h.timeStep h'.timeStep
  cases flow
  cases flow'
  simp_all

theorem AllocatedFlow.IsSpelledBy.unique {allocated' : AllocatedFlow}
    (h : allocated.IsSpelledBy timeStep source destination label size rate link)
    (h' : allocated'.IsSpelledBy timeStep source destination label size rate link) :
    allocated = allocated' := by
  have hlink : allocated.link = allocated'.link := by
    rw [← Link.ofCode_code allocated.link, code_unique h.link h'.link, Link.ofCode_code]
  have hflow := h.flow.unique h'.flow
  cases allocated
  cases allocated'
  simp_all

/-- What is spelled passes its checks. -/
theorem Flow.IsSpelledBy.checks (h : flow.IsSpelledBy timeStep source destination label size rate) :
    ∀ check ∈ Flow.checks timeStep source destination size rate, check.Holds := by
  simp only [Flow.checks, List.forall_mem_cons, List.not_mem_nil, false_implies, implies_true,
    and_true]
  exact ⟨⟨_, h.timeStep⟩, ⟨_, h.source⟩, ⟨_, h.destination⟩, ⟨_, h.size⟩, ⟨_, h.rate⟩⟩

theorem AllocatedFlow.IsSpelledBy.checks
    (h : allocated.IsSpelledBy timeStep source destination label size rate link) :
    ∀ check ∈ Flow.checks timeStep source destination size rate ++ [.link link], check.Holds :=
  List.forall_mem_append.mpr ⟨h.flow.checks, List.forall_mem_singleton.mpr ⟨_, h.link⟩⟩

theorem not_length_lt_six {rest : List (List Char)} :
    ¬ (timeStep :: source :: destination :: label :: size :: rate :: rest).length < 6 := by
  simp only [List.length_cons]
  omega

theorem Flow.Reads.unique {r r' : Except Malformed Flow} (h : Flow.Reads fields r)
    (h' : Flow.Reads fields r') : r = r' := by
  cases h with
  | spelled h =>
    cases h' with
    | spelled h' => exact congrArg Except.ok (h.unique h')
    | faulty h' => exact absurd h.checks h'.not_forall
    | short h' => exact absurd h' not_length_lt_six
  | faulty h =>
    cases h' with
    | spelled h' => exact absurd h'.checks h.not_forall
    | faulty h' => exact congrArg Except.error (h.unique h')
    | short h' => exact absurd h' not_length_lt_six
  | short h =>
    cases h' with
    | spelled => exact absurd h not_length_lt_six
    | faulty => exact absurd h not_length_lt_six
    | short => rfl

theorem AllocatedFlow.Reads.unique {r r' : Except Malformed AllocatedFlow}
    (h : AllocatedFlow.Reads fields r) (h' : AllocatedFlow.Reads fields r') : r = r' := by
  cases h with
  | spelled h =>
    cases h' with
    | spelled h' => exact congrArg Except.ok (h.unique h')
    | faulty h' => exact absurd h.checks h'.not_forall
    | miscounted h' => exact absurd rfl h'
  | faulty h =>
    cases h' with
    | spelled h' => exact absurd h'.checks h.not_forall
    | faulty h' => exact congrArg Except.error (h.unique h')
    | miscounted h' => exact absurd rfl h'
  | miscounted h =>
    cases h' with
    | spelled => exact absurd rfl h
    | faulty => exact absurd rfl h
    | miscounted => rfl

theorem Flow.ofLine_eq_iff {r : Except Malformed Flow} :
    Flow.ofLine line = r ↔ Flow.Reads (lineFields line) r :=
  ⟨fun h => h ▸ reads_ofLine line, fun h => (reads_ofLine line).unique h⟩

theorem AllocatedFlow.ofLine_eq_iff {r : Except Malformed AllocatedFlow} :
    AllocatedFlow.ofLine line = r ↔ AllocatedFlow.Reads (lineFields line) r :=
  ⟨fun h => h ▸ reads_ofLine line, fun h => (reads_ofLine line).unique h⟩

/-! ## Labels that are read -/

/-- A field is made of characters of its line that are no spaces. -/
theorem mem_of_mem_lineFields {field : List Char} (h : field ∈ lineFields line) {c : Char}
    (hc : c ∈ field) : c ∈ line ∧ c ≠ ' ' := by
  obtain ⟨hmem, hne⟩ := mem_of_mem_splitOn h hc
  have hline : c ∈ line.reverse := List.dropWhile_subset isBlank (List.mem_reverse.mp hmem)
  exact ⟨List.mem_reverse.mp hline, hne⟩

/-- The text of a label that is read is a field of the line. -/
theorem Flow.label_mem_lineFields (h : Flow.ofLine line = .ok flow) :
    flow.label.text.toList ∈ lineFields line ∧ Label.ofText flow.label.text = flow.label := by
  generalize hfields : lineFields line = fields
  have hreads := hfields ▸ ofLine_eq_iff.mp h
  cases hreads with
  | spelled hflow =>
    refine ⟨by simp [hflow.label_text], Label.eq_of_text_eq (Label.text_ofText _) ?_⟩
    rw [Label.ofText_eq_tcp_iff, hflow.label_tcp, ← hflow.label_text, String.toList_inj]

/-- A label that is read has no space in it, and it is read again. -/
theorem Flow.isReadable_of_ofLine (h : Flow.ofLine line = .ok flow) : flow.label.IsReadable := by
  obtain ⟨hmem, htext⟩ := label_mem_lineFields h
  exact ⟨fun hspace => (mem_of_mem_lineFields hmem hspace).2 rfl, htext⟩

/-- The flow of an allocated flow is read from the same line. -/
theorem AllocatedFlow.flow_ofLine (h : AllocatedFlow.ofLine line = .ok allocated) :
    Flow.ofLine line = .ok allocated.flow := by
  generalize hfields : lineFields line = fields
  have hreads := hfields ▸ ofLine_eq_iff.mp h
  cases hreads with
  | spelled hallocated =>
    refine Flow.ofLine_eq_iff.mpr ?_
    rw [hfields]
    exact .spelled hallocated.flow

end

/-- **The readers of lines follow the grammar.** Each line is made of fields in one way. What a
reader gives, a value or a fault, is what these fields are read as and nothing else; and a value
that it gives is read back from the line that is written for it. -/
theorem ofLine_grammar (line : List Char) :
    (∀ fields, IsLineOf fields line ↔ fields = lineFields line) ∧
    (∀ r, Flow.ofLine line = r ↔ Flow.Reads (lineFields line) r) ∧
    (∀ r, AllocatedFlow.ofLine line = r ↔ AllocatedFlow.Reads (lineFields line) r) ∧
    (∀ flow, Flow.ofLine line = .ok flow → Flow.ofLine flow.line = .ok flow) ∧
    ∀ allocated, AllocatedFlow.ofLine line = .ok allocated →
      AllocatedFlow.ofLine allocated.line = .ok allocated := by
  refine ⟨fun fields => isLineOf_iff, fun r => Flow.ofLine_eq_iff,
    fun r => AllocatedFlow.ofLine_eq_iff,
    fun flow h => Flow.ofLine_line (Flow.isReadable_of_ofLine h), fun allocated h => ?_⟩
  exact AllocatedFlow.ofLine_line (Flow.isReadable_of_ofLine (AllocatedFlow.flow_ofLine h))

/-- Signs, zeros in front and blanks at the end are not written again. Of several faults the first
in the order of the fields is reported, and a wrong number of fields comes before all of them. -/
theorem ofLine_grammar_lines :
    (∃ flow, Flow.ofLine "+1 02 3 x 05 +1Gbps\t".toList = .ok flow ∧
      flow.line = "1 2 3 x 5 1Gbps".toList ∧ Flow.ofLine flow.line = .ok flow) ∧
    (∃ allocated, AllocatedFlow.ofLine "+1 02 3 Tcp 05 +1Gbps -07\t".toList = .ok allocated ∧
      allocated.line = "1 2 3 Tcp 5 1Gbps -7".toList ∧
      AllocatedFlow.ofLine allocated.line = .ok allocated) ∧
    Flow.Reads (lineFields "1 -2 y Tcp 5 1gbps z".toList) (.error (.invalidField .source "-2")) ∧
    AllocatedFlow.Reads (lineFields "1 -2 y Tcp 5 1gbps z".toList)
      (.error (.invalidField .source "-2")) ∧
    Flow.Reads (lineFields "1 -2 y".toList) (.error (.tooFewFields 6 3)) ∧
    AllocatedFlow.Reads (lineFields "1 -2 y Tcp 5 1Gbps".toList)
      (.error (.wrongFieldCount 7 6)) := by
  have hflow : Flow.ofLine "+1 02 3 x 05 +1Gbps\t".toList =
      .ok ⟨1, ⟨2⟩, ⟨3⟩, .other "x", ⟨5⟩, ⟨1⟩⟩ := by decide +kernel
  have hallocated : AllocatedFlow.ofLine "+1 02 3 Tcp 05 +1Gbps -07\t".toList =
      .ok ⟨⟨1, ⟨2⟩, ⟨3⟩, .tcp, ⟨5⟩, ⟨1⟩⟩, .unknown ⟨-7, by decide, by decide⟩⟩ := by
    decide +kernel
  refine ⟨⟨_, hflow, by decide +kernel, (ofLine_grammar _).2.2.2.1 _ hflow⟩,
    ⟨_, hallocated, by decide +kernel, (ofLine_grammar _).2.2.2.2 _ hallocated⟩, ?_, ?_, ?_, ?_⟩
  · exact ((ofLine_grammar _).2.1 _).mp (by decide +kernel)
  · exact ((ofLine_grammar _).2.2.1 _).mp (by decide +kernel)
  · exact ((ofLine_grammar _).2.1 _).mp (by decide +kernel)
  · exact ((ofLine_grammar _).2.2.1 _).mp (by decide +kernel)

end RackTraffic
