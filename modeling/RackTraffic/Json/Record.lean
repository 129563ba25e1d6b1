import RackTraffic.Json.Scan

/-!
# Scanning records

A record is written as an object with a member for each of its fields, in any order, or as an array
of its fields in their order. Any field may be left out, and keeps the value that it has in a record
to start from. A member that is no field, and a field that occurs twice, are refused as soon as
their key is read.
-/

namespace RackTraffic.Json

/-- A field of records: its name, and how its value is put into a record. -/
structure RecordField (σ : Type) where
  name : String
  scan : σ → Scan σ

namespace Scan

variable {σ : Type}

/-- Stop because of a key. If the object is closed right after it, the stop is behind its brace. -/
def stopAtKey {α : Type} (flaw : Flaw) : Scan α := do
  if (← peek) = some '\x7d' then skip
  stop flaw

/-- The members of an object, which put values into a record, and the brace behind them. Every
member is shorter than the text, so its length is fuel enough. -/
def members (fields : List (RecordField σ)) : (fuel : Nat) → (seen : List String) → σ → Scan σ
  | 0, _, record => return record
  | fuel + 1, seen, record => do
    if ← nextMember seen.isEmpty then
      let key ← text .string
      match fields.find? (·.name == key) with
      | none => stopAtKey (.unknownField key (fields.map (·.name)))
      | some field =>
        if seen.contains key then stopAtKey (.duplicateField key)
        else
          colon
          members fields fuel (key :: seen) (← field.scan record)
    else
      skip
      return record

def elements : List (RecordField σ) → (first : Bool) → σ → Scan σ
  | [], _, record => do closeArray; return record
  | field :: fields, first, record => do
    if ← nextElement first then elements fields false (← field.scan record)
    else
      closeArray
      return record

def record (name : String) (fields : List (RecordField σ)) (start : σ) : Scan σ := do
  match ← peek with
  | some '[' => do skip; elements fields true start
  | some '\x7b' => do skip; members fields ((← get).length + 1) [] start
  | _ => mismatch (.record name)

/-- One of several names, each of which stands for a value. It may also be the only key of an
object, whose value is `null`. -/
def variant {α : Type} (choices : List (String × α)) : Scan α := do
  match ← peek with
  | some '"' => name
  | some '\x7b' => do
    skip
    if (← peek).any (· != '"') then stopAhead .keyNoString
    let a ← name
    colon
    null
    match ← peek with
    | some '\x7d' => do skip; return a
    | some _ => stop .noValue
    | none => stop (.unfinished .object)
  | some _ => stopAhead .noValue
  | none => stopAhead (.unfinished .value)
where
  name : Scan α := do
    let name ← text .variant
    match choices.lookup name with
    | some a => return a
    | none => stop (.unknownVariant name (choices.map (·.1)))

end Scan

end RackTraffic.Json
