import Mathlib.Data.List.Basic
import RackTraffic.Disk.Basic
import RackTraffic.Proofs.Fallible

/-!
# What is found on a disk

Looking up a path is resolving it to a place and asking what is there (`find_eq_ok`). The listing of
a directory holds exactly the entries right below it (`mem_children`), each name once
(`pairwise_children`).
-/

namespace RackTraffic

/-- There is a regular file at a place. -/
def Disk.FileAt (d : Disk) (place : Place) : Prop :=
  ∃ entry, d.at? place = some entry ∧ entry.isFile

namespace Disk

/-! ## Looking up -/

theorem find_eq_ok {d : Disk} {path : Path} {place : Place} {entry : Entry} :
    d.find path = .ok (place, entry) ↔ d.resolve path = .ok place ∧ d.at? place = some entry := by
  unfold find
  cases hresolve : d.resolve path with
  | error e => simp [bind, Except.bind]
  | ok p =>
    cases hentry : d.at? p with
    | none =>
      simp only [bind, Except.bind, hentry, throw, throwThe, MonadExceptOf.throw, reduceCtorEq,
        Except.ok.injEq, false_iff, not_and]
      rintro rfl
      simp [hentry]
    | some found =>
      simp only [bind, Except.bind, hentry, pure, Except.pure, Except.ok.injEq, Prod.mk.injEq]
      constructor
      · rintro ⟨rfl, rfl⟩
        exact ⟨rfl, hentry⟩
      · rintro ⟨rfl, h⟩
        rw [hentry] at h
        exact ⟨rfl, Option.some.inj h⟩

/-- A listing succeeds if and only if the path leads to a directory. -/
theorem list_eq_ok {d : Disk} {path : Path} {entries : List (String × Entry)} :
    d.list path = .ok entries ↔
      ∃ place, d.find path = .ok (place, .directory) ∧ entries = d.children place := by
  unfold list
  cases hfind : d.find path with
  | error e => simp [bind, Except.bind]
  | ok found =>
    obtain ⟨place, entry⟩ := found
    cases entry with
    | directory =>
      simp only [bind, Except.bind, pure, Except.pure, Except.ok.injEq, Prod.mk.injEq, and_true,
        exists_eq_left']
      exact eq_comm
    | file contents executable => simp [bind, Except.bind, throw, throwThe, MonadExceptOf.throw]

/-! ## Listings -/

theorem at?_cons (d : Disk) (name : String) (place : Place) :
    d.at? (name :: place) = d.entries[name :: place]? := rfl

theorem mem_children {d : Disk} {place : Place} {name : String} {entry : Entry} :
    (name, entry) ∈ d.children place ↔ d.at? (name :: place) = some entry := by
  rw [at?_cons, ← Std.ExtTreeMap.mem_toList_iff_getElem?_eq_some, children, List.mem_filterMap]
  constructor
  · rintro ⟨⟨_ | ⟨n, above⟩, e⟩, hmem, h⟩
    · simp at h
    · simp only [Option.ite_none_right_eq_some, Option.some.injEq, Prod.mk.injEq] at h
      obtain ⟨rfl, rfl, rfl⟩ := h
      exact hmem
  · intro hmem
    exact ⟨(name :: place, entry), hmem, by simp⟩

/-- A listing has no name twice. -/
theorem pairwise_children (d : Disk) (place : Place) :
    (d.children place).Pairwise fun a b => a.1 ≠ b.1 := by
  rw [children, List.pairwise_filterMap]
  refine Std.ExtTreeMap.distinct_keys_toList.imp fun {p q} hne a ha b hb hname => ?_
  obtain ⟨_ | ⟨n, above⟩, e⟩ := p
  · simp at ha
  obtain ⟨_ | ⟨m, above'⟩, e'⟩ := q
  · simp at hb
  simp only [Option.ite_none_right_eq_some, Option.some.injEq] at ha hb
  obtain ⟨rfl, rfl⟩ := ha
  obtain ⟨rfl, rfl⟩ := hb
  exact hne (by simp_all)

end Disk

/-! ## Actions -/

section

variable {α β : Type}

theorem stateM_pure_apply (a : α) (d : Disk) : (pure a : StateM Disk α) d = (a, d) := rfl

theorem stateM_map_apply (f : α → β) (act : StateM Disk α) (d : Disk) :
    (f <$> act) d = (f (act d).1, (act d).2) := rfl

theorem stateM_get_apply (d : Disk) : (get : StateM Disk Disk) d = (d, d) := rfl

theorem stateM_bind_apply (act : StateM Disk α) (f : α → StateM Disk β) (d : Disk) :
    (act >>= f) d = f (act d).1 (act d).2 := rfl

end

namespace DiskAction

variable {ε ε' α β : Type} {act : DiskAction ε α} {d e : Disk}

theorem pure_apply (a : α) (d : Disk) : (pure a : DiskAction ε α) d = (.ok a, d) := rfl

theorem get_apply (d : Disk) : (get : DiskAction ε Disk) d = (.ok d, d) := rfl

theorem lift_apply (act : StateM Disk α) (d : Disk) :
    (liftM act : DiskAction ε α) d = (.ok (act d).1, (act d).2) := rfl

/-- One action after another. -/
theorem bind_apply (act : DiskAction ε α) (f : α → DiskAction ε β) (d : Disk) :
    (act >>= f) d = match act d with
      | (.ok a, d') => f a d'
      | (.error fault, d') => (.error fault, d') := by
  rw [stateful_bind_apply]
  rcases act d with ⟨_ | _, _⟩ <;> rfl

theorem bind_eq_ok {f : α → DiskAction ε β} {b : β} :
    (act >>= f) d = (.ok b, e) ↔ ∃ a d', act d = (.ok a, d') ∧ f a d' = (.ok b, e) := by
  rw [bind_apply]
  rcases act d with ⟨_ | a, d'⟩
  · refine ⟨nofun, ?_⟩
    rintro ⟨a, d'', h, -⟩
    cases h
  · refine ⟨fun h => ⟨a, d', rfl, h⟩, ?_⟩
    rintro ⟨a, d', h, h'⟩
    cases h
    exact h'

/-- An action that ends well leaves some disk. -/
theorem exists_eq_ok {a : α} (h : (act d).1 = .ok a) : ∃ e, act d = (.ok a, e) :=
  ⟨(act d).2, Prod.ext h rfl⟩

theorem bind_pure_eq_ok {act : DiskAction ε Unit} {a b : α} :
    (act >>= fun _ => pure a) d = (.ok b, e) ↔ act d = (.ok (), e) ∧ b = a := by
  rw [bind_eq_ok]
  constructor
  · rintro ⟨u, d', h, heq⟩
    cases heq
    exact ⟨h, rfl⟩
  · rintro ⟨h, rfl⟩
    exact ⟨(), e, h, rfl⟩

theorem look_eq_ok {f : Disk → Except ε α} {a : α} :
    look f d = (.ok a, e) ↔ f d = .ok a ∧ d = e := by
  constructor
  · intro h
    exact ⟨congrArg Prod.fst h, congrArg Prod.snd h⟩
  · rintro ⟨h, rfl⟩
    rw [look, h]

theorem change_eq_ok {f : Disk → Except ε Disk} : change f d = (.ok (), e) ↔ f d = .ok e := by
  unfold change
  cases f d with
  | error fault => exact ⟨nofun, nofun⟩
  | ok d' =>
    constructor
    · intro h
      exact congrArg Except.ok (congrArg Prod.snd h)
    · intro h
      cases h
      rfl

theorem mapFailure_apply (f : ε → ε') (act : DiskAction ε α) (d : Disk) :
    mapFailure f act d = ((act d).1.mapError f, (act d).2) := rfl

theorem mapFailure_eq_ok {f : ε → ε'} {a : α} :
    mapFailure f act d = (.ok a, e) ↔ act d = (.ok a, e) := by
  rw [mapFailure_apply, Prod.mk.injEq, mapError_eq_ok, Prod.ext_iff]

theorem mapFailure_eq_error {f : ε → ε'} {fault' : ε'} :
    mapFailure f act d = (.error fault', e) ↔
      ∃ fault, act d = (.error fault, e) ∧ f fault = fault' := by
  rw [mapFailure_apply, Prod.mk.injEq, mapError_eq_error]
  constructor
  · rintro ⟨⟨fault, h, hf⟩, rfl⟩
    exact ⟨fault, Prod.ext h rfl, hf⟩
  · rintro ⟨fault, h, hf⟩
    rw [h]
    exact ⟨⟨fault, rfl, hf⟩, rfl⟩

end DiskAction

end RackTraffic
