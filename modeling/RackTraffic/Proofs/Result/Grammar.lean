import RackTraffic.Proofs.Decimal.Reading
import RackTraffic.Proofs.Lists
import RackTraffic.Proofs.Traffic.Grammar
import RackTraffic.Proofs.Traffic.Reading
import RackTraffic.Result.Basic

/-!
# The grammar of results

The written lines of a result are a header, unless the first of them opens a bracket, and
application lines (`HasParts`). A header has a number after the first occurrence of each of its keys
(`HasNumber`). An application line is in brackets (`IsBracketed`), and three words in them spell its
values (`Application.IsSpelledBy`).

**Theorem (`RunResult.ofText_grammar`).** A result is read from a text exactly as this grammar says
(`RunResult.Reads`). If several things are wrong, the fault is that of the header, or else that of
the first application line that has one, or else that there are not fifteen of them.
-/

namespace RackTraffic

open Text

variable {line inner key after : List Char} {x : Float}

/-! ## Keys and their numbers -/

/-- A text follows the first occurrence of a key in a line. -/
def FollowsFirst (key after line : List Char) : Prop :=
  ∃ before, line = before ++ key ++ after ∧
    ∀ before' after', line = before' ++ key ++ after' → before.length ≤ before'.length

theorem Text.dropStart?_eq_some_iff {start s t : List Char} :
    dropStart? start s = some t ↔ s = start ++ t := by
  constructor
  · intro h
    unfold dropStart? at h
    split_ifs at h with hstart
    obtain ⟨t', rfl⟩ := List.isPrefixOf_iff_prefix.mp hstart
    cases h
    simp
  · rintro rfl
    exact dropStart?_append start t

theorem afterKey?_eq_some_iff : afterKey? key line = some after ↔ FollowsFirst key after line := by
  induction line with
  | nil =>
    rw [afterKey?, dropStart?_eq_some_iff]
    constructor
    · intro h
      exact ⟨[], h, fun before' after' _ => Nat.zero_le _⟩
    · rintro ⟨before, h, -⟩
      simp_all
  | cons c line ih =>
    rw [afterKey?]
    cases hstart : dropStart? key (c :: line) with
    | some found =>
      have hline := dropStart?_eq_some_iff.mp hstart
      constructor
      · intro h
        cases h
        exact ⟨[], hline, fun before' after' _ => Nat.zero_le _⟩
      · rintro ⟨before, h, hfirst⟩
        obtain rfl : before = [] :=
          List.length_eq_zero_iff.mp (Nat.le_zero.mp (hfirst [] found hline))
        exact congrArg some (List.append_cancel_left (hline.symm.trans h))
    | none =>
      -- The key does not stand at the start, so each occurrence is one in the rest.
      have hlater : ∀ before t, c :: line = before ++ key ++ t →
          ∃ rest, before = c :: rest ∧ line = rest ++ key ++ t := by
        rintro before t h
        cases before with
        | nil =>
          have hfound : dropStart? key (c :: line) = some t := dropStart?_eq_some_iff.mpr h
          rw [hfound] at hstart
          cases hstart
        | cons d rest =>
          obtain ⟨hd, htail⟩ := List.cons.inj h
          exact ⟨rest, by rw [hd], htail⟩
      simp only [ih]
      constructor
      · rintro ⟨before, hline, hfirst⟩
        refine ⟨c :: before, congrArg (c :: ·) hline, fun before' after' h => ?_⟩
        obtain ⟨rest, rfl, htail⟩ := hlater before' after' h
        exact Nat.succ_le_succ (hfirst rest after' htail)
      · rintro ⟨before, h, hfirst⟩
        obtain ⟨rest, rfl, hline⟩ := hlater before after h
        refine ⟨rest, hline, fun before' after' h' => ?_⟩
        exact Nat.le_of_succ_le_succ (hfirst (c :: before') after' (congrArg (c :: ·) h'))

/-- A line has a number after the first occurrence of a key. Separators may stand between them, and
what follows the number begins with a comma, a bracket or a blank. -/
def HasNumber (key : List Char) (x : Float) (line : List Char) : Prop :=
  ∃ separators value rest, FollowsFirst key (separators ++ value ++ rest) line ∧
    (∀ c ∈ separators, c ∈ [':', '=', ' ']) ∧ Decimal.readFloat? value = some x ∧
    ∀ c ∈ rest.head?, c ∈ [',', ']'] ∨ isBlank c

/-- What may stand between a key and its number. -/
def isSeparator (c : Char) : Bool := c == ':' || c == '=' || c == ' '

/-- What ends a number. -/
def endsNumber (c : Char) : Bool := c == ',' || c == ']' || isBlank c

theorem isSeparator_iff {c : Char} : isSeparator c ↔ c ∈ [':', '=', ' '] := by
  simp [isSeparator, or_assoc]

theorem endsNumber_iff {c : Char} : endsNumber c ↔ c ∈ [',', ']'] ∨ isBlank c := by
  simp [endsNumber]

theorem Decimal.IsFloatChar.not_isSeparator {c : Char} (h : Decimal.IsFloatChar c) :
    isSeparator c = false := by
  have hseparators : [':', '=', ' '].all (¬ Decimal.IsFloatChar ·) := by decide
  rw [← Bool.not_eq_true, isSeparator_iff]
  exact fun hc => of_decide_eq_true (List.all_eq_true.mp hseparators c hc) h

theorem Decimal.IsFloatChar.not_endsNumber {c : Char} (h : Decimal.IsFloatChar c) :
    endsNumber c = false := by
  have hends : [',', ']'].all (¬ Decimal.IsFloatChar ·) := by decide
  rw [← Bool.not_eq_true, endsNumber_iff, h.isBlank_eq]
  rintro (hc | hc)
  · exact of_decide_eq_true (List.all_eq_true.mp hends c hc) h
  · cases hc

theorem headerValue?_eq_map (key : String) (line : List Char) : headerValue? key line =
    (afterKey? key.toList line).map fun after =>
      (after.dropWhile isSeparator).takeWhile fun c => !endsNumber c := rfl

/-- The value of a key is what the separators before it and the end after it leave. -/
theorem headerValue?_eq {key : String} {separators value rest : List Char}
    (hkey : afterKey? key.toList line = some (separators ++ value ++ rest))
    (hseparators : ∀ c ∈ separators, c ∈ [':', '=', ' '])
    (hvalue : Decimal.readFloat? value = some x)
    (hrest : ∀ c ∈ rest.head?, c ∈ [',', ']'] ∨ isBlank c) :
    headerValue? key line = some value := by
  have hchars : ∀ c ∈ value, Decimal.IsFloatChar c :=
    fun c => Decimal.isFloatChar_of_readFloat? hvalue
  have hdrop : (value ++ rest).dropWhile isSeparator = value ++ rest := by
    obtain ⟨c, value, rfl⟩ := List.exists_cons_of_ne_nil (Decimal.ne_nil_of_readFloat? hvalue)
    have hc := (hchars c List.mem_cons_self).not_isSeparator
    rw [List.cons_append, List.dropWhile_cons_of_neg (by simp [hc])]
  have htake : (value ++ rest).takeWhile (fun c => !endsNumber c) = value := by
    refine takeWhile_append_of_stop (fun c hc => ?_) fun c hc => ?_
    · simp [(hchars c hc).not_endsNumber]
    · simpa using endsNumber_iff.mpr (hrest c hc)
  rw [headerValue?_eq_map, hkey, Option.map_some, List.append_assoc,
    List.dropWhile_append_of_pos fun c hc => isSeparator_iff.mpr (hseparators c hc), hdrop, htake]

theorem headerNumber?_eq_some_iff {key : String} :
    headerNumber? key line = some x ↔ HasNumber key.toList x line := by
  constructor
  · intro h
    obtain ⟨value, hvalue, hread⟩ := Option.bind_eq_some_iff.mp h
    rw [headerValue?_eq_map] at hvalue
    obtain ⟨after, hafter, rfl⟩ := Option.map_eq_some_iff.mp hvalue
    refine ⟨after.takeWhile isSeparator, _,
      (after.dropWhile isSeparator).dropWhile fun c => !endsNumber c, ?_, fun c hc => ?_, hread,
      fun c hc => ?_⟩
    · rw [← afterKey?_eq_some_iff, hafter, List.append_assoc, List.takeWhile_append_dropWhile,
        List.takeWhile_append_dropWhile]
    · exact isSeparator_iff.mp (List.mem_takeWhile_imp hc)
    · have hend := List.head?_dropWhile_not (fun c => !endsNumber c) (after.dropWhile isSeparator)
      rw [Option.mem_def.mp hc] at hend
      exact endsNumber_iff.mp (by simpa using hend)
  · rintro ⟨separators, value, rest, hfirst, hseparators, hvalue, hrest⟩
    rw [headerNumber?, headerValue?_eq (afterKey?_eq_some_iff.mpr hfirst) hseparators hvalue hrest]
    exact hvalue

/-! ## Headers -/

/-- A header spells its three times. -/
structure Timing.IsSpelledBy (timing : Timing) (line : List Char) : Prop where
  simulated : HasNumber "Sim".toList timing.simulated line
  elapsed : HasNumber "WallClock".toList timing.elapsed line
  sinceReport : HasNumber "WallDiff".toList timing.sinceReport line

/-- How a line is read as a header. -/
inductive Timing.Reads (line : List Char) : Except Malformed Timing → Prop where
  | spelled {timing : Timing} (h : timing.IsSpelledBy line) : Reads line (.ok timing)
  | faulty (h : ∀ timing : Timing, ¬ timing.IsSpelledBy line) :
      Reads line (.error (.invalidHeader (String.ofList line)))

namespace Timing

variable {timing : Timing}

theorem ofLine_eq_ok_iff : ofLine line = .ok timing ↔ timing.IsSpelledBy line := by
  constructor
  · intro h
    unfold ofLine at h
    split at h
    · next hsimulated helapsed hsinceReport =>
      cases h
      exact ⟨headerNumber?_eq_some_iff.mp hsimulated, headerNumber?_eq_some_iff.mp helapsed,
        headerNumber?_eq_some_iff.mp hsinceReport⟩
    · cases h
  · intro h
    rw [ofLine, headerNumber?_eq_some_iff.mpr h.simulated, headerNumber?_eq_some_iff.mpr h.elapsed,
      headerNumber?_eq_some_iff.mpr h.sinceReport]

theorem ofLine_of_not_isSpelledBy (h : ∀ timing : Timing, ¬ timing.IsSpelledBy line) :
    ofLine line = .error (.invalidHeader (String.ofList line)) := by
  have hnot : ∀ timing, ofLine line ≠ .ok timing := fun timing hread =>
    h timing (ofLine_eq_ok_iff.mp hread)
  unfold ofLine at hnot ⊢
  split
  · simp_all
  · rfl

theorem ofLine_eq_iff {r : Except Malformed Timing} : ofLine line = r ↔ Reads line r := by
  constructor
  · rintro rfl
    by_cases h : ∃ timing : Timing, timing.IsSpelledBy line
    · obtain ⟨timing, htiming⟩ := h
      rw [ofLine_eq_ok_iff.mpr htiming]
      exact .spelled htiming
    · rw [ofLine_of_not_isSpelledBy (not_exists.mp h)]
      exact .faulty (not_exists.mp h)
  · intro h
    cases h with
    | spelled h => exact ofLine_eq_ok_iff.mpr h
    | faulty h => exact ofLine_of_not_isSpelledBy h

end Timing

/-! ## Brackets -/

/-- The first character of a line that is no blank opens a bracket. -/
def OpensBracket (line : List Char) : Prop :=
  ∃ blanks rest, line = blanks ++ '[' :: rest ∧ allBlank blanks

/-- A line is a text in brackets with nothing but blanks around them. -/
def IsBracketed (inner line : List Char) : Prop :=
  ∃ before after, line = before ++ '[' :: (inner ++ ']' :: after) ∧ allBlank before ∧ allBlank after

theorem isHeader_iff : isHeader line ↔ ¬ OpensBracket line := by
  have hopens : (trimStart line).head? = some '[' ↔ OpensBracket line := by
    constructor
    · intro h
      obtain ⟨rest, hrest⟩ := List.head?_eq_some_iff.mp h
      obtain ⟨blanks, hline, hblanks⟩ := eq_append_trimStart line
      exact ⟨blanks, rest, hrest ▸ hline, hblanks⟩
    · rintro ⟨blanks, rest, rfl, hblanks⟩
      rw [trimStart_append hblanks (by decide), List.head?_cons]
  rw [← hopens, isHeader, bne_iff_ne]

theorem bracketed?_eq_some_iff {s : List Char} :
    bracketed? s = some inner ↔ s = '[' :: (inner ++ [']']) := by
  constructor
  · intro h
    unfold bracketed? at h
    split at h
    · next rest =>
      split_ifs at h with hlast
      obtain ⟨inner', rfl⟩ := List.getLast?_eq_some_iff.mp hlast
      cases h
      rw [List.dropLast_concat]
    · cases h
  · rintro rfl
    simp [bracketed?]

theorem bracketed?_trim : bracketed? (trim line) = some inner ↔ IsBracketed inner line := by
  rw [bracketed?_eq_some_iff, trim]
  constructor
  · intro h
    obtain ⟨before, hbefore, hblanks⟩ := eq_append_trimStart line
    obtain ⟨after, hafter, hblanks'⟩ := eq_trimEnd_append (trimStart line)
    refine ⟨before, after, ?_, hblanks, hblanks'⟩
    rw [h] at hafter
    rw [hafter] at hbefore
    simpa using hbefore
  · rintro ⟨before, after, rfl, hblanks, hblanks'⟩
    have happend : '[' :: (inner ++ ']' :: after) = ('[' :: inner ++ [']']) ++ after := by simp
    rw [trimStart_append hblanks (by decide), happend, trimEnd_append_of_allBlank _ _ hblanks',
      trimEnd_concat _ (by decide), List.cons_append]

/-! ## Application lines -/

/-- A text without the colons at the end of a word. -/
def IsLessColons (s word : List Char) : Prop :=
  (∃ n, word = s ++ List.replicate n ':') ∧ s.getLast? ≠ some ':'

theorem isLessColons_iff {s word : List Char} :
    IsLessColons s word ↔ s = dropEndWhile (· == ':') word := by
  constructor
  · rintro ⟨⟨n, rfl⟩, hlast⟩
    rw [dropEndWhile_append_of_all _ _ (by simp)]
    refine (dropEndWhile_eq_self fun c hc => ?_).symm
    rw [beq_eq_false_iff_ne]
    rintro rfl
    exact hlast hc
  · rintro rfl
    obtain ⟨colons, hword, hcolons⟩ := eq_dropEndWhile_append (· == ':') word
    refine ⟨⟨colons.length, ?_⟩, fun hlast => ?_⟩
    · rw [← List.eq_replicate_length.mpr (by simpa using hcolons)]
      exact hword
    · simpa using getLast_dropEndWhile hlast

/-- A field has to be a number. -/
def FieldCheck.number (field : Field) (s : List Char) : FieldCheck :=
  ⟨field, s, ∃ x, Decimal.readFloat? s = some x⟩

namespace Application

variable {word index throughput latency : List Char} {rest : List (List Char)}
  {application : Application}

/-- The checks of the words of an application line. -/
def checks (index throughput latency : List Char) : List FieldCheck :=
  [.word .applicationIndex index, .number .throughput throughput, .number .latency latency]

/-- Three words spell the values of an application. -/
structure IsSpelledBy (application : Application) (index throughput latency : List Char) :
    Prop where
  index : Integer.SpellsNat application.index.toNat index
  throughput : Decimal.readFloat? throughput = some application.throughput
  latency : Decimal.readFloat? latency = some application.latency

/-- How a line is read as an application. -/
inductive Reads (line : List Char) : Except Malformed Application → Prop where
  | spelled {inner word index throughput latency : List Char} {rest : List (List Char)}
      {application : Application} (hinner : IsBracketed inner line)
      (hwords : AreWordsOf (word :: throughput :: latency :: rest) inner)
      (hindex : IsLessColons index word)
      (h : application.IsSpelledBy index throughput latency) : Reads line (.ok application)
  | faulty {inner word index throughput latency : List Char} {rest : List (List Char)}
      {fault : Malformed} (hinner : IsBracketed inner line)
      (hwords : AreWordsOf (word :: throughput :: latency :: rest) inner)
      (hindex : IsLessColons index word)
      (h : FirstFault (checks index throughput latency) fault) : Reads line (.error fault)
  | short {inner : List Char} {found : List (List Char)} (hinner : IsBracketed inner line)
      (hwords : AreWordsOf found inner) (h : found.length < 3) :
      Reads line (.error (.tooFewFields 3 found.length))
  | unbracketed (h : ∀ inner, ¬ IsBracketed inner line) :
      Reads line (.error (.invalidField .application (String.ofList line)))

theorem judged_readFloatField (field : Field) (s : List Char) :
    Judged [.number field s] (fun x => Decimal.readFloat? s = some x) (readFloatField field s) := by
  unfold readFloatField
  cases hread : Decimal.readFloat? s with
  | some x => exact ⟨List.forall_mem_singleton.mpr ⟨x, hread⟩, rfl⟩
  | none =>
    refine .here fun ⟨x, hx⟩ => ?_
    rw [hread] at hx
    cases hx

/-- Reading the three words of an application line makes its checks. -/
theorem judged_ofWords (index throughput latency : List Char) :
    Judged (checks index throughput latency) (IsSpelledBy · index throughput latency)
      (do
        let index ← readField .applicationIndex Integer.readUInt64 index
        let throughput ← readFloatField .throughput throughput
        let latency ← readFloatField .latency latency
        return { index, throughput, latency }) := by
  refine .bind (judged_readField fun _ => Integer.readUInt64_eq_ok_iff) fun i hi => ?_
  refine .bind (judged_readFloatField _ _) fun t ht => ?_
  refine .bind (judged_readFloatField _ _) fun l hl => ?_
  exact judged_pure ⟨hi, ht, hl⟩

theorem ofLine_of_words (hinner : IsBracketed inner line)
    (hwords : AreWordsOf (word :: throughput :: latency :: rest) inner)
    (hindex : IsLessColons index word) :
    ofLine line = (do
      let index ← readField .applicationIndex Integer.readUInt64 index
      let throughput ← readFloatField .throughput throughput
      let latency ← readFloatField .latency latency
      return { index, throughput, latency }) := by
  rw [ofLine, bracketed?_trim.mpr hinner, isLessColons_iff.mp hindex]
  simp only [← areWordsOf_iff.mp hwords]

theorem ofLine_of_short {found : List (List Char)} (hinner : IsBracketed inner line)
    (hwords : AreWordsOf found inner) (h : found.length < 3) :
    ofLine line = .error (.tooFewFields 3 found.length) := by
  obtain rfl := areWordsOf_iff.mp hwords
  rw [ofLine, bracketed?_trim.mpr hinner]
  dsimp only
  split
  · next hwords =>
    rw [hwords] at h
    simp only [List.length_cons] at h
    omega
  · rfl

theorem ofLine_of_unbracketed (h : ∀ inner, ¬ IsBracketed inner line) :
    ofLine line = .error (.invalidField .application (String.ofList line)) := by
  have hnone : bracketed? (trim line) = none := by
    refine Option.eq_none_iff_forall_ne_some.mpr fun inner hinner => ?_
    exact h inner (bracketed?_trim.mp hinner)
  rw [ofLine, hnone]

theorem IsSpelledBy.checks (h : application.IsSpelledBy index throughput latency) :
    ∀ check ∈ Application.checks index throughput latency, check.Holds := by
  simp only [Application.checks, List.forall_mem_cons, List.not_mem_nil, false_implies,
    implies_true, and_true]
  exact ⟨⟨_, h.index⟩, ⟨_, h.throughput⟩, ⟨_, h.latency⟩⟩

theorem IsSpelledBy.unique {application' : Application}
    (h : application.IsSpelledBy index throughput latency)
    (h' : application'.IsSpelledBy index throughput latency) : application = application' := by
  have hindex := word_unique h.index h'.index
  have hthroughput := Option.some.inj (h.throughput.symm.trans h'.throughput)
  have hlatency := Option.some.inj (h.latency.symm.trans h'.latency)
  cases application
  cases application'
  simp_all

theorem reads_ofLine (line : List Char) : Reads line (ofLine line) := by
  by_cases hbracketed : ∃ inner, IsBracketed inner line
  · obtain ⟨inner, hinner⟩ := hbracketed
    obtain ⟨found, hwords⟩ := exists_areWordsOf inner
    match found with
    | word :: throughput :: latency :: rest =>
      have hindex := isLessColons_iff.mpr (Eq.refl (dropEndWhile (· == ':') word))
      rw [ofLine_of_words hinner hwords hindex]
      rcases (judged_ofWords _ throughput latency).cases with
        ⟨application, hread, h⟩ | ⟨fault, hread, h⟩
      · rw [hread]
        exact .spelled hinner hwords hindex h
      · rw [hread]
        exact .faulty hinner hwords hindex h
    | [] | [_] | [_, _] =>
      rw [ofLine_of_short hinner hwords (by simp)]
      exact .short hinner hwords (by simp)
  · rw [ofLine_of_unbracketed (not_exists.mp hbracketed)]
    exact .unbracketed (not_exists.mp hbracketed)

theorem Reads.eq_ofLine {r : Except Malformed Application} (h : Reads line r) :
    ofLine line = r := by
  cases h with
  | spelled hinner hwords hindex h =>
    rw [ofLine_of_words hinner hwords hindex]
    rcases (judged_ofWords _ _ _).cases with ⟨application', hread, h'⟩ | ⟨fault, hread, h'⟩
    · rw [hread, h.unique h']
    · exact absurd h.checks h'.not_forall
  | faulty hinner hwords hindex h =>
    rw [ofLine_of_words hinner hwords hindex]
    rcases (judged_ofWords _ _ _).cases with ⟨application', hread, h'⟩ | ⟨fault, hread, h'⟩
    · exact absurd h'.checks h.not_forall
    · rw [hread, h.unique h']
  | short hinner hwords h => exact ofLine_of_short hinner hwords h
  | unbracketed h => exact ofLine_of_unbracketed h

theorem ofLine_eq_iff {r : Except Malformed Application} : ofLine line = r ↔ Reads line r :=
  ⟨fun h => h ▸ reads_ofLine line, Reads.eq_ofLine⟩

end Application

/-! ## Results -/

/-- The header and the application lines of written lines. Only a first line that opens no bracket
is a header. -/
inductive HasParts :
    List (List Char × Nat) → Option (List Char × Nat) → List (List Char × Nat) → Prop where
  | headed {line : List Char} {number : Nat} {body : List (List Char × Nat)}
      (h : ¬ OpensBracket line) : HasParts ((line, number) :: body) (some (line, number)) body
  | bare {body : List (List Char × Nat)} (h : ∀ first ∈ body.head?, OpensBracket first.1) :
      HasParts body none body

/-- How the header of a result is read, if there is one. -/
inductive HeaderReads : Option (List Char × Nat) → Except Malformed (Option Timing) → Prop where
  | absent : HeaderReads none (.ok none)
  | spelled {line : List Char} {number : Nat} {timing : Timing}
      (h : Timing.Reads line (.ok timing)) :
      HeaderReads (some (line, number)) (.ok (some timing))
  | faulty {line : List Char} {number : Nat} {fault : Malformed}
      (h : Timing.Reads line (.error fault)) :
      HeaderReads (some (line, number)) (.error (.atLine number fault))

/-- How a result is read from written lines. -/
inductive RunResult.Reads (numbered : List (List Char × Nat)) :
    Except Malformed RunResult → Prop where
  | complete {header : Option (List Char × Nat)} {body : List (List Char × Nat)}
      {timing : Option Timing} {applications : List Application}
      (hparts : HasParts numbered header body)
      (hheader : HeaderReads header (.ok timing))
      (hbody : LinesRead Application.Reads body (.ok applications))
      (hcount : applications.length = 15) :
      Reads numbered (.ok { timing, applications })
  | headerFault {header : Option (List Char × Nat)} {body : List (List Char × Nat)}
      {fault : Malformed}
      (hparts : HasParts numbered header body) (hheader : HeaderReads header (.error fault)) :
      Reads numbered (.error fault)
  | applicationFault {header : Option (List Char × Nat)} {body : List (List Char × Nat)}
      {timing : Option Timing} {fault : Malformed} (hparts : HasParts numbered header body)
      (hheader : HeaderReads header (.ok timing))
      (hbody : LinesRead Application.Reads body (.error fault)) : Reads numbered (.error fault)
  | miscounted {header : Option (List Char × Nat)} {body : List (List Char × Nat)}
      {timing : Option Timing} {applications : List Application}
      (hparts : HasParts numbered header body)
      (hheader : HeaderReads header (.ok timing))
      (hbody : LinesRead Application.Reads body (.ok applications))
      (hcount : applications.length ≠ 15) :
      Reads numbered (.error (.wrongLineCount 15 applications.length))

section

variable {numbered body : List (List Char × Nat)} {header : Option (List Char × Nat)}

/-- Read a header, if there is one. -/
def readHeader : Option (List Char × Nat) → Except Malformed (Option Timing)
  | none => .ok none
  | some (line, number) => ((Timing.ofLine line).mapError (.atLine number)).map some

theorem exists_hasParts (numbered : List (List Char × Nat)) :
    ∃ header body, HasParts numbered header body := by
  cases numbered with
  | nil => exact ⟨none, [], .bare nofun⟩
  | cons first body =>
    by_cases h : OpensBracket first.1
    · exact ⟨none, first :: body, .bare fun line hline => by cases hline; exact h⟩
    · exact ⟨some first, body, .headed h⟩

theorem HasParts.takeTiming_eq (h : HasParts numbered header body) :
    takeTiming numbered = (readHeader header).map (·, body) := by
  cases h with
  | headed h =>
    rw [takeTiming, if_pos (isHeader_iff.mpr h), readHeader]
    cases (Timing.ofLine _).mapError _ <;> rfl
  | bare h =>
    cases numbered with
    | nil => rfl
    | cons first rest =>
      have hfirst : ¬ isHeader first.1 := fun hheader => isHeader_iff.mp hheader (h first rfl)
      rw [takeTiming, if_neg hfirst]
      rfl

theorem readHeader_eq_iff {r : Except Malformed (Option Timing)} :
    readHeader header = r ↔ HeaderReads header r := by
  constructor
  · rintro rfl
    cases header with
    | none => exact .absent
    | some first =>
      obtain ⟨line, number⟩ := first
      rw [readHeader]
      cases hread : Timing.ofLine line with
      | ok timing => exact .spelled (Timing.ofLine_eq_iff.mp hread)
      | error fault => exact .faulty (Timing.ofLine_eq_iff.mp hread)
  · intro h
    cases h with
    | absent => rfl
    | spelled h =>
      rw [readHeader, Timing.ofLine_eq_iff.mpr h]
      rfl
    | faulty h =>
      rw [readHeader, Timing.ofLine_eq_iff.mpr h]
      rfl

theorem readLines_application_eq_iff {r : Except Malformed (List Application)} :
    readLines Application.ofLine body = r ↔ LinesRead Application.Reads body r :=
  readLines_eq_iff fun _ _ => Application.ofLine_eq_iff

/-- A result is read part by part. -/
theorem HasParts.ofText_eq {text : String} (h : HasParts (writtenLines text.toList) header body) :
    RunResult.ofText text = (do
      let timing ← readHeader header
      let applications ← readLines Application.ofLine body
      if applications.length = applicationCount then return { timing, applications }
      else .error (.wrongLineCount applicationCount applications.length)) := by
  rw [RunResult.ofText, h.takeTiming_eq]
  cases readHeader header <;> rfl

/-- A result is read if its parts are and there are fifteen application lines. -/
theorem HasParts.ofText_eq_ok_iff {text : String} {result : RunResult}
    (h : HasParts (writtenLines text.toList) header body) : RunResult.ofText text = .ok result ↔
      HeaderReads header (.ok result.timing) ∧
      LinesRead Application.Reads body (.ok result.applications) ∧
        result.applications.length = applicationCount := by
  rw [h.ofText_eq, ← readHeader_eq_iff, ← readLines_application_eq_iff]
  constructor
  · intro hread
    obtain ⟨timing, htiming, hread⟩ := bind_eq_ok.mp hread
    obtain ⟨applications, happlications, hread⟩ := bind_eq_ok.mp hread
    split_ifs at hread with hcount
    cases hread
    exact ⟨htiming, happlications, hcount⟩
  · rintro ⟨htiming, happlications, hcount⟩
    rw [htiming, happlications]
    exact if_pos hcount

end

/-- **Results are read by their grammar.** -/
theorem RunResult.ofText_grammar (text : String) (r : Except Malformed RunResult) :
    RunResult.ofText text = r ↔
      ∃ numbered, AreWrittenLinesOf numbered text.toList ∧ RunResult.Reads numbered r := by
  simp only [areWrittenLinesOf_iff, exists_eq_left]
  constructor
  · rintro rfl
    obtain ⟨header, body, hparts⟩ := exists_hasParts (writtenLines text.toList)
    rw [hparts.ofText_eq]
    cases hheader : readHeader header with
    | error fault => exact .headerFault hparts (readHeader_eq_iff.mp hheader)
    | ok timing =>
      have hheader := readHeader_eq_iff.mp hheader
      cases hbody : readLines Application.ofLine body with
      | error fault =>
        exact .applicationFault hparts hheader (readLines_application_eq_iff.mp hbody)
      | ok applications =>
        have hbody := readLines_application_eq_iff.mp hbody
        show RunResult.Reads _ (if applications.length = applicationCount then _ else _)
        split_ifs with hcount
        · exact .complete hparts hheader hbody hcount
        · exact .miscounted hparts hheader hbody hcount
  · intro h
    cases h with
    | complete hparts hheader hbody hcount =>
      exact hparts.ofText_eq_ok_iff.mpr ⟨hheader, hbody, hcount⟩
    | headerFault hparts hheader =>
      rw [hparts.ofText_eq, readHeader_eq_iff.mpr hheader]
      rfl
    | applicationFault hparts hheader hbody =>
      rw [hparts.ofText_eq, readHeader_eq_iff.mpr hheader, readLines_application_eq_iff.mpr hbody]
      rfl
    | miscounted hparts hheader hbody hcount =>
      rw [hparts.ofText_eq, readHeader_eq_iff.mpr hheader, readLines_application_eq_iff.mpr hbody]
      exact if_neg hcount

end RackTraffic
