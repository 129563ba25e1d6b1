import RackTraffic.Proofs.Traffic.Name

/-!
# What a file is for is in its name

A file of a batch is a flow log, an allocation log, a result, a result that is being made or a
console file, and it belongs to a scenario or to a pair. All of this can be told from its name:
files that are for different things have different names (`FileRole.name_injective`).

The three kinds of files that are looked for in directories are recognised by just the names that
are made for them (`FileRole.recognised_exactly`). A number with a zero or a sign in front, a number
that is too large and a further underscore make another name.

Names are told apart by a *mark*: the letter that they start with, if any, and their last three
characters. The mark depends on the form of a name and not on the numbers in it (`mark_name`).
-/

namespace RackTraffic

/-! ## Forms -/

/-- The form of the names of results that are being made. -/
def NameForm.partialResult : NameForm := ⟨['.'], ".txt.partial".toList⟩

/-- The form of the names of console files. -/
def NameForm.console : NameForm := ⟨[], ".log".toList⟩

theorem PairId.partialName_eq (id : PairId) :
    id.partialName = NameForm.partialResult.name id.text := by
  rw [← String.toList_inj, NameForm.toList_name]
  simp [partialName, resultName, NameForm.toList_name, NameForm.result, NameForm.partialResult]

theorem PairId.consoleName_eq (id : PairId) : id.consoleName = NameForm.console.name id.text := by
  rw [← String.toList_inj, NameForm.toList_name]
  simp [consoleName, NameForm.console]

/-! ## Roles -/

/-- What a file is for. -/
inductive FileRole where
  | flowLog (id : ScenarioId)
  | allocationLog (id : PairId)
  | result (id : PairId)
  /-- A result that is being made. -/
  | partialResult (id : PairId)
  | console (id : PairId)
  deriving DecidableEq, Repr

namespace FileRole

/-- The name of a file. -/
def name : FileRole → String
  | flowLog id => id.flowLogName
  | allocationLog id => id.allocationLogName
  | result id => id.resultName
  | partialResult id => id.partialName
  | console id => id.consoleName

/-- The form of a file's name. -/
def form : FileRole → NameForm
  | flowLog _ => .flowLog
  | allocationLog _ => .allocationLog
  | result _ => .result
  | partialResult _ => .partialResult
  | console _ => .console

/-- The stem of a file's name. -/
def stem : FileRole → List Char
  | flowLog id => Integer.ofUInt64 id.number
  | allocationLog id | result id | partialResult id | console id => id.text

theorem name_eq (role : FileRole) : role.name = role.form.name role.stem := by
  cases role with
  | flowLog | allocationLog | result => rfl
  | partialResult id => exact id.partialName_eq
  | console id => exact id.consoleName_eq

/-! ## Marks -/

/-- The letter that a name starts with, if any, and its last three characters. -/
def mark (name : String) : Option Char × List Char :=
  (name.toList.head?.filter Char.isAlpha, name.toList.reverse.take 3)

end FileRole

/-- The mark of the names of a form. -/
def NameForm.mark (form : NameForm) : Option Char × List Char :=
  (form.before.head?.filter Char.isAlpha, form.after.reverse.take 3)

/-- The forms of all names. -/
def fileForms : List NameForm := [.flowLog, .allocationLog, .result, .partialResult, .console]

theorem eq_of_fileForms_mark : ∀ form ∈ fileForms, ∀ form' ∈ fileForms,
    form.mark = form'.mark → form.before = form'.before ∧ form.after = form'.after := by decide

theorem not_isAlpha_of_isDigit {c : Char} (h : c.isDigit = true) : c.isAlpha = false := by
  have hnine : c.toNat ≤ '9'.toNat := (Char.isDigit_iff_toNat.mp h).2
  have hupper : c.isUpper = false := by
    refine decide_eq_false fun hletter => ?_
    have hA : 'A'.toNat ≤ c.toNat := hletter.1
    exact absurd (Nat.le_trans hA hnine) (by decide)
  have hlower : c.isLower = false := by
    refine Bool.and_eq_false_iff.mpr (.inl (decide_eq_false fun hletter => ?_))
    have ha : 'a'.toNat ≤ c.toNat := hletter
    exact absurd (Nat.le_trans ha hnine) (by decide)
  show (c.isUpper || c.isLower) = false
  rw [hupper, hlower]
  rfl

namespace FileRole

theorem form_mem (role : FileRole) : role.form ∈ fileForms := by
  cases role <;> simp [form, fileForms]

/-- A stem starts with a digit, so the first letter of a name is that of its form. -/
theorem mark_name (role : FileRole) : mark role.name = role.form.mark := by
  have hdigit : ∀ (id : PairId) (after : List Char),
      (id.text ++ after).head?.filter Char.isAlpha = none := by
    intro id after
    obtain ⟨c, rest, htext, hc⟩ := id.exists_text_eq_cons
    simp [htext, Option.filter, not_isAlpha_of_isDigit hc]
  rw [name_eq, mark, NameForm.mark]
  refine Prod.ext ?_ (NameForm.take_reverse_name _ _ ?_)
  · rw [NameForm.toList_name]
    cases role with
    | flowLog | allocationLog | partialResult => rfl
    | result id | console id => exact hdigit id _
  · have hlength : ∀ form ∈ fileForms, 3 ≤ form.after.length := by decide
    exact hlength _ role.form_mem

theorem form_eq_of_name_eq {role role' : FileRole} (h : role.name = role'.name) :
    role.form = role'.form := by
  have hmark : role.form.mark = role'.form.mark := by
    rw [← mark_name, ← mark_name, h]
  obtain ⟨hbefore, hafter⟩ := eq_of_fileForms_mark _ role.form_mem _ role'.form_mem hmark
  cases hform : role.form
  cases hform' : role'.form
  simp_all

/-- **Files that are for different things have different names.** -/
theorem name_injective : Function.Injective name := by
  intro role role' h
  have hform := form_eq_of_name_eq h
  have hstem : role.stem = role'.stem := by
    rw [name_eq, name_eq, hform] at h
    exact role'.form.name_injective h
  cases role <;> cases role' <;> simp only [form] at hform
  case flowLog.flowLog => exact congrArg (flowLog ⟨·⟩) (Integer.ofUInt64_injective hstem)
  case allocationLog.allocationLog => exact congrArg allocationLog (PairId.text_injective hstem)
  case result.result => exact congrArg result (PairId.text_injective hstem)
  case partialResult.partialResult => exact congrArg partialResult (PairId.text_injective hstem)
  case console.console => exact congrArg console (PairId.text_injective hstem)
  -- Forms of different roles have different marks.
  all_goals exact absurd (congrArg NameForm.mark hform) (by decide)

theorem name_ne {role role' : FileRole} (h : role ≠ role') : role.name ≠ role'.name :=
  name_injective.ne h

/-! ## Recognition -/

/-- Files of a kind are recognised by the names that are made for them and by no others. `role` says
what the file of a key is for. -/
structure RecognisedExactly {κ : Type} (recognise : String → Option κ) (role : κ → FileRole) :
    Prop where
  /-- The name that is made for a key gives the key back. -/
  made : ∀ key, recognise (role key).name = some key
  /-- A name that gives a key is the one that is made for it. -/
  canonical : ∀ name key, recognise name = some key → name = (role key).name
  /-- The name of a file of another kind gives no key. -/
  foreign : ∀ other : FileRole, (∀ key, other ≠ role key) → recognise other.name = none

theorem recognisedExactly_of_iff {κ : Type} {recognise : String → Option κ} {role : κ → FileRole}
    (h : ∀ {name key}, recognise name = some key ↔ (role key).name = name) :
    RecognisedExactly recognise role where
  made _ := h.mpr rfl
  canonical _ _ hkey := (h.mp hkey).symm
  foreign other hother := by
    refine Option.eq_none_iff_forall_ne_some.mpr fun key hkey => hother key ?_
    exact (name_injective (h.mp hkey)).symm

/-- What is recognised as one kind of file is not recognised as another. -/
theorem RecognisedExactly.eq_none {κ κ' : Type} {recognise : String → Option κ}
    {recognise' : String → Option κ'} {role : κ → FileRole} {role' : κ' → FileRole}
    (h : RecognisedExactly recognise role) (h' : RecognisedExactly recognise' role')
    (hkinds : ∀ key key', role key ≠ role' key') {name : String}
    (hname : (recognise name).isSome = true) : recognise' name = none := by
  obtain ⟨key, hkey⟩ := Option.isSome_iff_exists.mp hname
  rw [h.canonical name key hkey]
  exact h'.foreign _ (hkinds key)

/-- **Names and what they stand for correspond exactly.** Flow logs, allocation logs and results are
recognised by the names that are made for them and by no others, so no name is recognised as two
kinds of files, and none that is made for a partial result or a console file as any. Files that are
for different things never have the same name. -/
theorem recognised_exactly :
    RecognisedExactly ScenarioId.ofFlowLogName? flowLog ∧
    RecognisedExactly PairId.ofAllocationLogName? allocationLog ∧
    RecognisedExactly PairId.ofResultName? result ∧
    (∀ name, ((ScenarioId.ofFlowLogName? name).isSome = true →
        PairId.ofAllocationLogName? name = none ∧ PairId.ofResultName? name = none) ∧
      ((PairId.ofAllocationLogName? name).isSome = true → PairId.ofResultName? name = none)) ∧
    Function.Injective name := by
  have hflow : RecognisedExactly ScenarioId.ofFlowLogName? flowLog :=
    recognisedExactly_of_iff ScenarioId.ofFlowLogName?_eq_some
  have hallocation : RecognisedExactly PairId.ofAllocationLogName? allocationLog :=
    recognisedExactly_of_iff PairId.ofAllocationLogName?_eq_some
  have hresult : RecognisedExactly PairId.ofResultName? result :=
    recognisedExactly_of_iff PairId.ofResultName?_eq_some
  refine ⟨hflow, hallocation, hresult, fun name => ⟨fun hname => ⟨?_, ?_⟩, fun hname => ?_⟩,
    name_injective⟩
  · exact hflow.eq_none hallocation nofun hname
  · exact hflow.eq_none hresult nofun hname
  · exact hallocation.eq_none hresult nofun hname

example : PairId.ofAllocationLogName? "alloc__0_+1.dat" = none := by decide

end FileRole

end RackTraffic
