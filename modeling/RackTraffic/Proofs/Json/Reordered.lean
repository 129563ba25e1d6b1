import Mathlib.Data.List.Forall2
import RackTraffic.Json.Decoding
import RackTraffic.Proofs.Json.Spaced

/-!
# The order of members

Two values that differ in the order of members only (`Reordered`), in an object or in objects that
are values of its members, stand for the same record. A reader of a record asks for the values under
the names of its fields. In another order of members it finds values that differ in the order of
members again, or the same number (`Reordered.fieldValues`, `Reordered.eq_ofNat`). This makes it an
induction on the record that every reader gets the same from both.
-/

namespace RackTraffic.JsonValue

open Json (IsPlain IsUnescaped)

variable {v w u : JsonValue} {key : String} {names : List String} {values : List JsonValue}
  {n : Nat}

theorem ofMembers_injective : Function.Injective ofMembers := by
  intro ms ms' h
  refine List.map_injective_iff.mpr ?_ (object.inj h)
  rintro ⟨key, v⟩ ⟨key', v'⟩ h
  simpa using h

/-- The same value with members of objects in another order. -/
inductive Reordered : JsonValue → JsonValue → Prop where
  | refl (v : JsonValue) : Reordered v v
  | members {ms ms' : List (String × JsonValue)} (h : ms.Perm ms') :
      Reordered (.ofMembers ms) (.ofMembers ms')
  | value {front back : List (String × JsonValue)} {key : String} {v v' : JsonValue}
      (h : Reordered v v') :
      Reordered (.ofMembers (front ++ (key, v) :: back)) (.ofMembers (front ++ (key, v') :: back))
  | trans {u v w : JsonValue} (h : Reordered u v) (h' : Reordered v w) : Reordered u w

theorem Reordered.eq_ofNat (h : v.Reordered (.ofNat n)) : v = .ofNat n := by
  generalize hw : ofNat n = w at h
  induction h with
  | refl v => rfl
  | members h => cases hw
  | value h => cases hw
  | trans h h' ih ih' => exact (ih (ih' hw ▸ hw)).trans (ih' hw)

theorem isPlain_ofMembers_iff {ms : List (String × JsonValue)} :
    IsPlain (.ofMembers ms) ↔ ∀ m ∈ ms, (∀ c ∈ m.1.toList, IsUnescaped c) ∧ IsPlain m.2 := by
  constructor
  · intro h
    generalize hv : ofMembers ms = v at h
    cases h with
    | ofNat n => cases hv
    | ofMembers hkeys hvalues =>
      cases ofMembers_injective hv
      exact fun m hm => ⟨hkeys m hm, hvalues m hm⟩
  · exact fun h => .ofMembers (fun m hm => (h m hm).1) fun m hm => (h m hm).2

theorem Reordered.isPlain (h : v.Reordered w) (hw : IsPlain w) : IsPlain v := by
  induction h with
  | refl v => exact hw
  | members h =>
    rw [isPlain_ofMembers_iff] at hw ⊢
    exact fun m hm => hw m (h.subset hm)
  | value h ih =>
    simp only [isPlain_ofMembers_iff, List.forall_mem_append, List.forall_mem_cons] at hw ⊢
    obtain ⟨hfront, ⟨hkey, hvalue⟩, hback⟩ := hw
    exact ⟨hfront, ⟨hkey, ih hvalue⟩, hback⟩
  | trans h h' ih ih' => exact ih (ih' hw)

/-! ## Fields -/

/-- The values under a key. -/
def under (key : String) (members : List (String × JsonValue)) : List JsonValue :=
  members.filterMap fun (k, v) => if k = key then some v else none

/-- An object with exactly one member under a key. -/
def HasMember (v : JsonValue) (key : String) (u : JsonValue) : Prop :=
  ∃ members, v = .ofMembers members ∧ under key members = [u]

theorem under_eq_nil {members : List (String × JsonValue)} (h : key ∉ members.map Prod.fst) :
    under key members = [] := by
  refine List.filterMap_eq_nil_iff.mpr fun m hm => if_neg fun hkey => h ?_
  exact List.mem_map.mpr ⟨m, hm, hkey⟩

theorem under_of_mem {members : List (String × JsonValue)} (hkeys : (members.map Prod.fst).Nodup)
    (h : (key, v) ∈ members) : under key members = [v] := by
  induction members with
  | nil => cases h
  | cons m members ih =>
    obtain ⟨hfirst, hothers⟩ := List.nodup_cons.mp hkeys
    rcases List.mem_cons.mp h with rfl | h
    · simpa [under] using under_eq_nil hfirst
    · have hne : m.1 ≠ key := fun heq => hfirst (List.mem_map.mpr ⟨_, h, heq.symm⟩)
      simpa [under, hne] using ih hothers h

/-- A record has the value of each of its fields. -/
theorem hasMember_zip (hnames : names.Nodup) (values : List JsonValue)
    (hlength : names.length = values.length) :
    List.Forall₂ (ofMembers (names.zip values)).HasMember names values := by
  refine List.forall₂_iff_zip.mpr ⟨hlength, fun h => ⟨_, rfl, under_of_mem ?_ h⟩⟩
  rwa [List.map_fst_zip hlength.le]

theorem isPlain_zip (hnames : ∀ name ∈ names, ∀ c ∈ name.toList, IsUnescaped c)
    (hvalues : ∀ v ∈ values, IsPlain v) : IsPlain (.ofMembers (names.zip values)) := by
  refine isPlain_ofMembers_iff.mpr fun m hm => ?_
  obtain ⟨hname, hvalue⟩ := List.of_mem_zip hm
  exact ⟨hnames _ hname, hvalues _ hvalue⟩

theorem Reordered.hasMember (h : v.Reordered w) (hw : w.HasMember key u) :
    ∃ u', v.HasMember key u' ∧ u'.Reordered u := by
  induction h generalizing u with
  | refl v => exact ⟨u, hw, .refl u⟩
  | @members ms ms' h =>
    obtain ⟨members, hmembers, hunder⟩ := hw
    cases ofMembers_injective hmembers
    have hperm : (under key ms).Perm [u] := hunder ▸ h.filterMap _
    exact ⟨u, ⟨ms, rfl, List.perm_singleton.mp hperm⟩, .refl u⟩
  | @value front back k v v' h ih =>
    obtain ⟨members, hmembers, hunder⟩ := hw
    cases ofMembers_injective hmembers
    by_cases hk : k = key
    · subst hk
      -- No other member is under this key.
      obtain ⟨hfront, rfl, hback⟩ :
          under k front = [] ∧ v' = u ∧ under k back = [] := by
        simpa [under, List.append_eq_singleton_iff] using hunder
      refine ⟨v, ⟨_, rfl, ?_⟩, h⟩
      simp only [under, List.filterMap_append, List.filterMap_cons] at hfront hback ⊢
      simp [hfront, hback]
    · refine ⟨u, ⟨_, rfl, ?_⟩, .refl u⟩
      simpa [under, hk] using hunder
  | trans h h' ih ih' =>
    obtain ⟨u', hu', hreordered'⟩ := ih' hw
    obtain ⟨u'', hu'', hreordered''⟩ := ih hu'
    exact ⟨u'', hu'', hreordered''.trans hreordered'⟩

theorem memberValues_of_under {members : List (String × JsonValue)}
    (h : List.Forall₂ (fun name v => under name members = [v]) names values) :
    memberValues members names = some (values.map some) := by
  induction h with
  | nil => rfl
  | cons hfound _ ih =>
    rw [under] at hfound
    simp [memberValues, ih, hfound]

theorem namedMembers_ofMembers (members : List (String × JsonValue)) :
    namedMembers (members.map fun (key, v) => (some key, v)) = some members := by
  rw [namedMembers, List.mapM_map]
  exact List.mapM_pure.trans (congrArg some (List.map_id members))

theorem fieldValues_of_hasMember (hnames : names ≠ [])
    (h : List.Forall₂ v.HasMember names values) :
    fieldValues names v = some (values.map some) := by
  cases h with
  | nil => contradiction
  | @cons name u names values hname hrest =>
    obtain ⟨members, rfl, hunder⟩ := hname
    have hothers : List.Forall₂ (fun name v => under name members = [v]) names values := by
      refine hrest.imp ?_
      rintro name u ⟨members', hmembers', hunder'⟩
      rwa [ofMembers_injective hmembers']
    have hvalues := memberValues_of_under (.cons hunder hothers)
    rw [ofMembers, fieldValues, namedMembers_ofMembers]
    exact hvalues

/-- In another order of members, a reader finds the values of the fields in another order again. -/
theorem Reordered.fieldValues (h : v.Reordered w) (hnames : names ≠ [])
    (hw : List.Forall₂ w.HasMember names values) :
    ∃ values', fieldValues names v = some (values'.map some) ∧
      List.Forall₂ Reordered values' values := by
  suffices hv : ∃ values', List.Forall₂ v.HasMember names values' ∧
      List.Forall₂ Reordered values' values by
    obtain ⟨values', hv, hvalues⟩ := hv
    exact ⟨values', fieldValues_of_hasMember hnames hv, hvalues⟩
  clear hnames
  induction hw with
  | nil => exact ⟨[], .nil, .nil⟩
  | cons hname _ ih =>
    obtain ⟨u', hu', hreordered⟩ := h.hasMember hname
    obtain ⟨values', hvalues, hothers⟩ := ih
    exact ⟨u' :: values', .cons hu' hvalues, .cons hreordered hothers⟩

/-! ## Words -/

theorem Reordered.eq_map_ofUInt64 {words : List UInt64}
    (h : List.Forall₂ Reordered values (words.map ofUInt64)) : values = words.map ofUInt64 := by
  induction words generalizing values with
  | nil => cases h; rfl
  | cons n words ih =>
    cases h with
    | cons hn hwords => rw [List.map_cons, hn.eq_ofNat, ih hwords, ofUInt64]

/-- A word is read as it was written. -/
@[simp] theorem word?_ofUInt64 (n : UInt64) : (ofUInt64 n).word? = some n := by
  have hvalue : Decimal.digitsValue (Nat.toDigits 10 n.toNat) = n.toNat :=
    Nat.ofDigitChars_toDigits (by decide) (by decide)
  simp [ofUInt64, ofNat, word?, Decimal.Numeral.ofNat, hvalue, n.toNat_lt_size]

end RackTraffic.JsonValue
