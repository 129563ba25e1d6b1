import Mathlib.Data.List.Basic
import Mathlib.Data.List.DropRight
import Mathlib.Data.List.TakeDrop
import RackTraffic.Json.Reading
import RackTraffic.Proofs.Lists
import RackTraffic.Proofs.Text.Integer

/-!
# Blanks in JSON texts

A JSON value is written as a row of tokens: brackets, colons, commas, keys and scalars
(`JsonValue.tokens`). Its compact text is just that row (`flatten_tokens`). Any blanks may stand
before, between and after the tokens (`Spaced`), and they do not change what is read.

This is shown for the values that records of numbers are made of (`IsPlain`): natural numbers, and
objects of such values under keys without characters that have to be escaped.

**Theorem (`read?_of_spaced`).** A text that has the tokens of such a value, with any blanks, is
read as this value.

A reader of a value takes exactly its tokens and leaves those that follow (`IsPlain.takeValue`). The
induction is on the value. It needs that a number is not followed by anything that could be part of
it, which is so because only commas and brackets follow a value.
-/

namespace RackTraffic

/-! ## Tokens -/

namespace JsonValue

mutual

/-- The tokens of a value. -/
def tokens : JsonValue → List (List Char)
  | .null => ["null".toList]
  | .bool true => ["true".toList]
  | .bool false => ["false".toList]
  | .number n => [n.text]
  | .string s => [stringText (s.getD "")]
  | .array [] => [['['], [']']]
  | .array (v :: vs) => ['['] :: (v.tokens ++ elementTokens vs)
  | .object [] => [['\x7b'], ['\x7d']]
  | .object ((key, v) :: ms) =>
    ['\x7b'] :: stringText (key.getD "") :: [':'] :: (v.tokens ++ memberTokens ms)

/-- The tokens of the elements after the first, and of the bracket that closes the array. -/
def elementTokens : List JsonValue → List (List Char)
  | [] => [[']']]
  | v :: vs => [','] :: (v.tokens ++ elementTokens vs)

/-- The tokens of the members after the first, and of the brace that closes the object. -/
def memberTokens : List (Option String × JsonValue) → List (List Char)
  | [] => [['\x7d']]
  | (key, v) :: ms =>
    [','] :: stringText (key.getD "") :: [':'] :: (v.tokens ++ memberTokens ms)

end

mutual

/-- The compact text of a value is made of its tokens. -/
theorem flatten_tokens : (v : JsonValue) → v.tokens.flatten = v.compact
  | .null | .bool true | .bool false | .array [] | .object [] => by simp [tokens, compact]
  | .number n | .string s => by simp [tokens, compact]
  | .array (v :: vs) => by
    simp [tokens, compact, flatten_tokens v, flatten_elementTokens vs]
  | .object ((key, v) :: ms) => by
    simp [tokens, compact, flatten_tokens v, flatten_memberTokens ms]

theorem flatten_elementTokens : (vs : List JsonValue) →
    (elementTokens vs).flatten = compactRest vs
  | [] => by simp [elementTokens, compactRest]
  | v :: vs => by
    simp [elementTokens, compactRest, flatten_tokens v, flatten_elementTokens vs]

theorem flatten_memberTokens : (ms : List (Option String × JsonValue)) →
    (memberTokens ms).flatten = compactMembers ms
  | [] => by simp [memberTokens, compactMembers]
  | (key, v) :: ms => by
    simp [memberTokens, compactMembers, flatten_tokens v, flatten_memberTokens ms]

end

end JsonValue

namespace Json

open Decimal (Numeral takeDigits)

/-! ## Blanks -/

/-- The characters that may stand between tokens. -/
def blanks : List Char := [' ', '\t', '\n', '\r']

/-- A text is a row of tokens, with any blanks before, between and after them. -/
inductive Spaced : List (List Char) → List Char → Prop where
  | blanks {gap : List Char} (h : gap ⊆ blanks) : Spaced [] gap
  | token {gap t s : List Char} {ts : List (List Char)} (h : gap ⊆ Json.blanks)
      (hs : Spaced ts s) : Spaced (t :: ts) (gap ++ t ++ s)

variable {gap s rest : List Char} {ts : List (List Char)} {v : JsonValue} {c : Char}

/-- The same blanks everywhere. -/
theorem spaced_padded (h : gap ⊆ blanks) (ts : List (List Char)) :
    Spaced ts (ts.flatMap (gap ++ ·) ++ gap) := by
  induction ts with
  | nil => exact .blanks h
  | cons t ts ih =>
    rw [List.flatMap_cons, List.append_assoc]
    exact .token h ih

theorem spaced_compact (v : JsonValue) : Spaced v.tokens v.compact := by
  have h := spaced_padded (List.nil_subset blanks) v.tokens
  simpa [List.flatMap_id, v.flatten_tokens] using h

theorem skipBlanks_append (h : gap ⊆ blanks) (s : List Char) :
    skipBlanks (gap ++ s) = skipBlanks s := by
  refine List.dropWhile_append_of_pos fun c hc => ?_
  simpa [blanks, or_assoc] using h hc

theorem skipBlanks_cons (h : c ∉ blanks) (s : List Char) : skipBlanks (c :: s) = c :: s := by
  refine List.dropWhile_cons_of_neg ?_
  simpa [blanks, or_assoc] using h

/-- After the blanks a token stands first, and the others follow it. -/
theorem Spaced.skipBlanks {t : List Char} (h : Spaced ((c :: t) :: ts) s) (hc : c ∉ Json.blanks) :
    ∃ rest, skipBlanks s = c :: (t ++ rest) ∧ Spaced ts rest := by
  cases h with
  | @token gap t s ts hgap hs =>
    refine ⟨s, ?_, hs⟩
    rw [List.append_assoc, skipBlanks_append hgap, List.cons_append, skipBlanks_cons hc]

theorem Spaced.skipBlanks_nil (h : Spaced [] s) : Json.skipBlanks s = [] := by
  cases h with
  | blanks h => simpa [Json.skipBlanks] using skipBlanks_append h []

/-- A text is at least as long as its tokens. -/
theorem Spaced.length_flatten_le (h : Spaced ts s) : ts.flatten.length ≤ s.length := by
  induction h with
  | blanks h => exact Nat.zero_le _
  | token h hs ih =>
    simp only [List.flatten_cons, List.length_append]
    omega

/-! ## Numbers -/

/-- A text goes on with nothing that could be part of a number. -/
def EndsNumber (s : List Char) : Prop :=
  ∀ c ∈ s.head?, c ∈ blanks ++ [',', ']', '\x7d']

theorem takeDigits_append {digits : List Char} (hdigits : ∀ c ∈ digits, c.isDigit)
    (hrest : ∀ c ∈ rest.head?, c.isDigit = false) :
    takeDigits (digits ++ rest) = (digits, rest) := by
  rw [takeDigits, List.span_eq_takeWhile_dropWhile, takeWhile_append_of_stop hdigits hrest,
    dropWhile_append_of_stop hdigits hrest]

/-- Only zero is written with a zero in front. -/
theorem head?_toDigits_ne {n : Nat} (h : 0 < n) : (Nat.toDigits 10 n).head? ≠ some '0' := by
  induction n using Nat.strongRecOn with
  | ind n ih =>
    by_cases hn : n < 10
    · have hdigit : ∀ m < 10, 0 < m → [m.digitChar].head? ≠ some '0' := by decide
      rw [Nat.toDigits_of_lt_base hn]
      exact hdigit n hn h
    · have hhead := ih (n / 10) (by omega) (by omega)
      obtain ⟨c, digits, hcons⟩ := List.exists_cons_of_ne_nil (Nat.toDigits_ne_nil (n := n / 10))
      rw [hcons] at hhead
      rw [Nat.toDigits_of_base_le (by decide) (by omega), hcons]
      exact hhead

theorem takeWhole_ofNat (n : Nat) (hrest : ∀ c ∈ rest.head?, c.isDigit = false) :
    takeWhole (Integer.ofNat n ++ rest) = some (Integer.ofNat n, rest) := by
  have hdigits : ∀ c ∈ Integer.ofNat n, c.isDigit := fun c => Integer.isDigit_of_mem_ofNat
  have htake := takeDigits_append hdigits hrest
  rcases Nat.eq_zero_or_pos n with rfl | hn
  · rfl
  · have hzero := head?_toDigits_ne hn
    obtain ⟨c, digits, hcons⟩ := List.exists_cons_of_ne_nil (Integer.ofNat_ne_nil n)
    rw [← Integer.ofNat, hcons] at hzero
    rw [hcons, List.cons_append] at htake ⊢
    have hc : c ≠ '0' := by simpa using hzero
    rw [takeWhole, htake]
    simp [hc]

theorem takeNumeral_ofNat (n : Nat) (h : EndsNumber rest) :
    takeNumeral (Integer.ofNat n ++ rest) = some (.ofNat n, rest) := by
  have hdigit : ∀ c ∈ rest.head?, c.isDigit = false := by
    have hend : ∀ c ∈ blanks ++ [',', ']', '\x7d'], c.isDigit = false := by simp [blanks]
    exact fun c hc => hend c (h c hc)
  have hfraction : takeFraction rest = some ([], rest) := by
    unfold takeFraction
    split
    · exact absurd (h '.' rfl) (by decide)
    · rfl
  have hexponent : takeExponent rest = some (none, rest) := by
    unfold takeExponent
    split
    · exact absurd (h 'e' rfl) (by decide)
    · exact absurd (h 'E' rfl) (by decide)
    · rfl
  have hwhole := takeWhole_ofNat n hdigit
  obtain ⟨c, digits, hcons, hc⟩ := Integer.exists_ofNat_eq_cons (x := '-') (by decide) n
  rw [hcons, List.cons_append] at hwhole ⊢
  rw [takeNumeral]
  · simp [hwhole, hfraction, hexponent, Numeral.ofNat, ← hcons, Integer.ofNat]
  · simp [hc]

/-! ## Keys -/

/-- A character that is not escaped in a string. -/
def IsUnescaped (c : Char) : Prop := c ≠ '"' ∧ c ≠ '\\' ∧ 0x20 ≤ c.toNat

instance : DecidablePred IsUnescaped := fun c =>
  inferInstanceAs (Decidable (c ≠ '"' ∧ c ≠ '\\' ∧ 0x20 ≤ c.toNat))

theorem charText_of_isUnescaped (h : IsUnescaped c) : JsonValue.charText c = [c] := by
  obtain ⟨hquote, hslash, hcontrol⟩ := h
  unfold JsonValue.charText
  split
  all_goals first
    | contradiction
    | exact absurd hcontrol (by decide)
    | exact if_neg (by omega)

theorem stringText_of_isUnescaped {key : String} (h : ∀ c ∈ key.toList, IsUnescaped c) :
    JsonValue.stringText key = '"' :: (key.toList ++ ['"']) := by
  have htext : key.toList.flatMap JsonValue.charText = key.toList.flatMap ([·]) :=
    List.flatMap_congr fun c hc => charText_of_isUnescaped (h c hc)
  rw [JsonValue.stringText, htext, List.flatMap_singleton', List.cons_append]

theorem takePieces_of_isUnescaped {cs : List Char} (h : ∀ c ∈ cs, IsUnescaped c) {fuel : Nat}
    (hfuel : cs.length < fuel) :
    takePieces fuel (cs ++ '"' :: rest) = some (cs.map .char, rest) := by
  induction cs generalizing fuel with
  | nil =>
    obtain ⟨fuel, rfl⟩ := Nat.exists_eq_add_of_lt hfuel
    simp [takePieces]
  | cons c cs ih =>
    obtain ⟨fuel, rfl⟩ : ∃ k, fuel = k + 1 := ⟨fuel - 1, by omega⟩
    obtain ⟨⟨hquote, hslash, hcontrol⟩, hcs⟩ := List.forall_mem_cons.mp h
    have hrest := ih hcs (Nat.succ_lt_succ_iff.mp hfuel)
    have hc : ¬c.toNat < 0x20 := by omega
    rw [List.cons_append, takePieces]
    · simp [hslash, hc, hrest]
    all_goals simp [hquote, hslash]

theorem joinPieces_map_char (cs : List Char) : joinPieces (cs.map .char) = some cs := by
  induction cs with
  | nil => rfl
  | cons c cs ih => simp [joinPieces, ih]

theorem takeString_of_isUnescaped {key : String} (h : ∀ c ∈ key.toList, IsUnescaped c)
    (rest : List Char) : takeString (key.toList ++ '"' :: rest) = some (some key, rest) := by
  have hfuel : key.toList.length < (key.toList ++ '"' :: rest).length := by simp
  rw [takeString, takePieces_of_isUnescaped h hfuel]
  simp [joinPieces_map_char]

/-! ## Values -/

open JsonValue (compactMembers memberTokens stringText)

/-- What may follow the tokens of a value: nothing, a comma or a bracket that closes. -/
def EndsValue (ts : List (List Char)) : Prop :=
  ∀ t ∈ ts.head?, t ∈ [[','], [']'], ['\x7d']]

theorem Spaced.endsNumber (h : Spaced ts s) (hts : EndsValue ts) : EndsNumber s := by
  intro c hc
  cases h with
  | blanks hgap => exact List.mem_append_left _ (hgap (List.mem_of_mem_head? hc))
  | @token gap t s ts hgap hs =>
    cases gap with
    | cons x gap =>
      cases hc
      exact List.mem_append_left _ (hgap List.mem_cons_self)
    | nil =>
      have ht := hts t rfl
      simp only [List.mem_cons, List.not_mem_nil, or_false] at ht
      rcases ht with rfl | rfl | rfl <;> cases hc <;> decide

/-- A value is read from its tokens, whatever blanks stand between them. -/
def IsRead (v : JsonValue) : Prop :=
  ∀ {fuel : Nat} {ts : List (List Char)} {s : List Char}, v.compact.length ≤ fuel →
    EndsValue ts → Spaced (v.tokens ++ ts) s →
      ∃ rest, takeValue fuel s = some (v, rest) ∧ Spaced ts rest

theorem takeValue_of_isDigit {fuel : Nat} (hs : skipBlanks s = c :: rest) (hc : c.isDigit) :
    takeValue (fuel + 1) s =
      (takeNumeral (c :: rest)).map fun (numeral, rest) => (.number numeral, rest) := by
  rw [takeValue, hs]
  split
  all_goals first
    | rfl
    | next heq => exact absurd hc (by rw [(List.cons.inj heq).1]; decide)

theorem isRead_ofNat (n : Nat) : IsRead (.ofNat n) := by
  intro fuel ts s hfuel hts hs
  have htext : (Numeral.ofNat n).text = Integer.ofNat n := by
    simp [Numeral.ofNat, Numeral.text, Integer.ofNat]
  obtain ⟨c, digits, hcons⟩ := List.exists_cons_of_ne_nil (Integer.ofNat_ne_nil n)
  have hdigit : c.isDigit := Integer.isDigit_of_mem_ofNat (n := n) (by simp [hcons])
  have hblank : ∀ x ∈ blanks, x.isDigit = false := by simp [blanks]
  rw [JsonValue.ofNat, JsonValue.tokens, htext, hcons] at hs
  obtain ⟨rest, hskip, hrest⟩ := hs.skipBlanks fun h => by simp [hblank c h] at hdigit
  rw [JsonValue.ofNat, JsonValue.compact, htext, hcons, List.length_cons] at hfuel
  obtain ⟨fuel, rfl⟩ := Nat.exists_eq_add_of_le' (Nat.le_of_add_left_le hfuel)
  have hnumeral := takeNumeral_ofNat n (hrest.endsNumber hts)
  rw [hcons, List.cons_append] at hnumeral
  refine ⟨rest, ?_, hrest⟩
  rw [takeValue_of_isDigit hskip hdigit, hnumeral]
  rfl

/-- The members of an object. -/
def named (members : List (String × JsonValue)) : List (Option String × JsonValue) :=
  members.map fun (key, value) => (some key, value)

theorem memberTokens_named_cons (m : String × JsonValue) (members : List (String × JsonValue)) :
    memberTokens (named (m :: members)) =
      [','] :: stringText m.1 :: [':'] :: (m.2.tokens ++ memberTokens (named members)) := by
  simp [named, memberTokens]

theorem length_compactMembers_named_cons (m : String × JsonValue)
    (members : List (String × JsonValue)) :
    m.2.compact.length + (compactMembers (named members)).length <
      (compactMembers (named (m :: members))).length := by
  simp only [named, List.map_cons, compactMembers, List.length_cons, List.length_append]
  omega

/-- Blanks before the members are skipped. -/
theorem takeMembers_skipBlanks (fuel : Nat) (s : List Char) :
    takeMembers fuel (skipBlanks s) = takeMembers fuel s := by
  cases fuel with
  | zero => rw [takeMembers, takeMembers]
  | succ fuel =>
    have hskip : skipBlanks (skipBlanks s) = skipBlanks s := List.dropWhile_idempotent _ s
    rw [takeMembers, takeMembers, hskip]

/-- A member is read from its tokens, if its key has nothing escaped in it. -/
structure IsReadMember (m : String × JsonValue) : Prop where
  key : ∀ c ∈ m.1.toList, IsUnescaped c
  value : IsRead m.2

section

variable {m : String × JsonValue} {members : List (String × JsonValue)} {fuel : Nat}

/-- After the first member the object ends, or it goes on with other members. -/
theorem takeMembers_of_spaced_cons (hm : IsReadMember m) (hfuel : m.2.compact.length ≤ fuel)
    (hts : EndsValue ts) (hs : Spaced (stringText m.1 :: [':'] :: (m.2.tokens ++ ts)) s) :
    ∃ s', Spaced ts s' ∧
      (∀ rest, skipBlanks s' = '\x7d' :: rest →
        takeMembers (fuel + 1) s = some (named [m], rest)) ∧
      ∀ rest ms rest', skipBlanks s' = ',' :: rest → takeMembers fuel rest = some (ms, rest') →
        takeMembers (fuel + 1) s = some ((some m.1, m.2) :: ms, rest') := by
  rw [stringText_of_isUnescaped hm.key] at hs
  obtain ⟨s₁, hquote, hs₁⟩ := hs.skipBlanks (by decide)
  obtain ⟨s₂, hcolon, hs₂⟩ := hs₁.skipBlanks (by decide)
  obtain ⟨s₃, hread, hs₃⟩ := hm.value hfuel hts hs₂
  have hstring := takeString_of_isUnescaped hm.key s₁
  rw [List.append_assoc, List.singleton_append] at hquote
  rw [List.nil_append] at hcolon
  refine ⟨s₃, hs₃, fun rest hbrace => ?_, fun rest ms rest' hcomma hms => ?_⟩
  · rw [takeMembers, hquote]
    simp [hstring, hcolon, hread, hbrace, named]
  · rw [takeMembers, hquote]
    simp [hstring, hcolon, hread, hcomma, hms]

theorem takeMembers_of_spaced (hm : IsReadMember m) (hmembers : ∀ m' ∈ members, IsReadMember m')
    (hfuel : m.2.compact.length + (compactMembers (named members)).length ≤ fuel)
    (hs : Spaced (stringText m.1 :: [':'] ::
      (m.2.tokens ++ (memberTokens (named members) ++ ts))) s) :
    ∃ rest, takeMembers fuel s = some (named (m :: members), rest) ∧ Spaced ts rest := by
  induction members generalizing m fuel s with
  | nil =>
    have hbraces : memberTokens (named []) = [['\x7d']] := by simp [named, memberTokens]
    have hlength : (compactMembers (named [])).length = 1 := by simp [named, compactMembers]
    obtain ⟨fuel, rfl⟩ : ∃ k, fuel = k + 1 := ⟨fuel - 1, by omega⟩
    have hvalue : m.2.compact.length ≤ fuel := by omega
    rw [hbraces, List.singleton_append] at hs
    obtain ⟨s', hs', hend, -⟩ := takeMembers_of_spaced_cons hm hvalue
      (fun t ht => by cases ht; decide) hs
    obtain ⟨rest, hbrace, hrest⟩ := hs'.skipBlanks (by decide)
    exact ⟨rest, hend rest hbrace, hrest⟩
  | cons m' members ih =>
    obtain ⟨hm', hmembers⟩ := List.forall_mem_cons.mp hmembers
    have hlength := length_compactMembers_named_cons m' members
    obtain ⟨fuel, rfl⟩ : ∃ k, fuel = k + 1 := ⟨fuel - 1, by omega⟩
    have hvalue : m.2.compact.length ≤ fuel := by omega
    have hothers : m'.2.compact.length + (compactMembers (named members)).length ≤ fuel := by omega
    rw [memberTokens_named_cons] at hs
    obtain ⟨s', hs', -, hmore⟩ := takeMembers_of_spaced_cons hm hvalue
      (fun t ht => by cases ht; decide) hs
    obtain ⟨s'', hcomma, hs''⟩ := hs'.skipBlanks (by decide)
    obtain ⟨rest, htake, hrest⟩ := ih hm' hmembers hothers (by simpa using hs'')
    exact ⟨rest, hmore _ _ _ hcomma htake, hrest⟩

theorem takeValue_of_brace {s' : List Char} (hs : skipBlanks s = '\x7b' :: s')
    (hs' : skipBlanks s' = c :: rest) (hc : c ≠ '\x7d') :
    takeValue (fuel + 1) s =
      (takeMembers fuel s').map fun (ms, rest) => (.object ms, rest) := by
  rw [← takeMembers_skipBlanks, takeValue, hs]
  simp only [hs']
  split
  · next heq => exact absurd (List.cons.inj heq).1 hc
  · rfl

theorem isRead_ofMembers (h : ∀ m ∈ members, IsReadMember m) : IsRead (.ofMembers members) := by
  intro fuel ts s hfuel hts hs
  cases members with
  | nil =>
    simp only [JsonValue.ofMembers, List.map_nil, JsonValue.compact, List.length_cons] at hfuel
    obtain ⟨fuel, rfl⟩ : ∃ k, fuel = k + 1 := ⟨fuel - 1, by omega⟩
    obtain ⟨s', hopen, hs'⟩ := hs.skipBlanks (by decide)
    obtain ⟨rest, hclose, hrest⟩ := hs'.skipBlanks (by decide)
    refine ⟨rest, ?_, hrest⟩
    rw [takeValue, hopen]
    simp [hclose, JsonValue.ofMembers]
  | cons m members =>
    obtain ⟨hm, hmembers⟩ := List.forall_mem_cons.mp h
    have hcompact : (JsonValue.ofMembers (m :: members)).compact =
        '\x7b' :: (stringText m.1 ++ ':' :: m.2.compact ++ compactMembers (named members)) := by
      simp [JsonValue.ofMembers, JsonValue.compact, named]
    have htokens : (JsonValue.ofMembers (m :: members)).tokens =
        ['\x7b'] :: stringText m.1 :: [':'] ::
          (m.2.tokens ++ memberTokens (named members)) := by
      simp [JsonValue.ofMembers, JsonValue.tokens, named]
    simp only [hcompact, List.length_cons, List.length_append] at hfuel
    obtain ⟨fuel, rfl⟩ : ∃ k, fuel = k + 1 := ⟨fuel - 1, by omega⟩
    rw [htokens] at hs
    obtain ⟨s', hopen, hs'⟩ := hs.skipBlanks (by decide)
    simp only [List.append_eq, List.cons_append, List.append_assoc] at hs'
    have hvalues : m.2.compact.length + (compactMembers (named members)).length ≤ fuel := by omega
    obtain ⟨rest, htake, hrest⟩ := takeMembers_of_spaced hm hmembers hvalues hs'
    -- A key starts with a quote, so this is not the brace that closes an empty object.
    rw [stringText_of_isUnescaped hm.key] at hs'
    obtain ⟨s₁, hquote, -⟩ := hs'.skipBlanks (by decide)
    refine ⟨rest, ?_, hrest⟩
    rw [List.nil_append] at hopen
    rw [takeValue_of_brace hopen hquote (by decide), htake]
    rfl

end

/-- The values that records of numbers are made of. -/
inductive IsPlain : JsonValue → Prop where
  | ofNat (n : Nat) : IsPlain (.ofNat n)
  | ofMembers {members : List (String × JsonValue)}
      (hkeys : ∀ m ∈ members, ∀ c ∈ m.1.toList, IsUnescaped c)
      (hvalues : ∀ m ∈ members, IsPlain m.2) : IsPlain (.ofMembers members)

theorem IsPlain.isRead (h : IsPlain v) : IsRead v := by
  induction h with
  | ofNat n => exact isRead_ofNat n
  | ofMembers hkeys _ ih => exact isRead_ofMembers fun m hm => ⟨hkeys m hm, ih m hm⟩

/-- **Blanks do not matter.** -/
theorem read?_of_spaced {text : String} (h : IsPlain v) (hs : Spaced v.tokens text.toList) :
    read? text = some v := by
  have hlength := hs.length_flatten_le
  have hfuel : v.compact.length ≤ 2 * text.toList.length + 1 := by
    rw [v.flatten_tokens] at hlength
    omega
  have hends : EndsValue [] := nofun
  obtain ⟨rest, htake, hrest⟩ := h.isRead hfuel hends (by rwa [List.append_nil])
  rw [read?, htake]
  simp [hrest.skipBlanks_nil]

end Json

end RackTraffic
