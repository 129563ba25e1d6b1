import RackTraffic.Shell.Record.Program
import RackTraffic.Shell.Tool.Basic

/-!
# The state of a record program

A running program has variables, tables, the record that has been read last with its fields, and the
files and commands that it reads or writes. What it prints is kept back until the program ends,
calls a command or has an error to report.

Setting a field puts the record together anew, and setting the record cuts it into fields anew.

Only the machine for scripts (`Shell.host`) needs this module, and only `Main` and test runs need
the machine; no result is about it.
-/

namespace RackTraffic.Shell.Record

open Effect

def nameText (s : List Char) : String := (String.fromUTF8? (bytesOf s)).getD (String.ofList s)

/-- What a name stands for. -/
inductive Slot where
  | value (v : Value)
  | table (number : Nat)
  deriving Repr

/-- What a program writes besides its output. -/
structure Writer where
  name : List Char
  command : Bool
  append : Bool
  pending : ByteArray := .empty

/-- The state of a running program. -/
structure State where
  program : Program
  globals : List (String × Slot) := []
  locals : List (String × Slot) := []
  tables : Array Table := #[]
  record : List Char := []
  fields : Array Value := #[]
  source : Option (List Char) := none
  used : Nat := 1
  named : Bool := false
  readers : List (List Char × List Char) := []
  writers : List Writer := []
  output : ByteArray := .empty
  status : UInt8 := 0
  within : List Nat := []

/-- Why a part of a program stops. -/
inductive Leave where
  | loop
  | round
  | next
  | exit
  | finish (v : Value)
  | fault (message : String)

abbrev Run := ExceptT Leave (StateT State Effect)

def caught {α : Type} (act : Run α) : Run (Except Leave α) :=
  ExceptT.mk do
    let r ← act.run
    return .ok r

def onMachine {α : Type} (act : Effect α) : Run α :=
  ExceptT.lift (StateT.lift act)

/-! ## Variables -/

def State.slot? (s : State) (name : String) : Option Slot :=
  (s.locals.lookup name).or (s.globals.lookup name)

def State.withSlot (s : State) (name : String) (slot : Slot) : State :=
  if (s.locals.lookup name).isSome then
    { s with locals := (name, slot) :: s.locals.filter (·.1 != name) }
  else { s with globals := (name, slot) :: s.globals.filter (·.1 != name) }

def State.value (s : State) (name : String) : Value :=
  match s.slot? name with
  | some (.value v) => v
  | _ => .unset

def State.text (s : State) (name : String) : List Char := (s.value name).textIn "%.6g".toList

/-- The format in which numbers become texts. -/
def State.numberFormat (s : State) : List Char := s.text "CONVFMT"

def initialGlobals : List (String × Slot) :=
  ([ ("FS", " "), ("OFS", " "), ("ORS", "\n"), ("RS", "\n"), ("OFMT", "%.6g"),
      ("CONVFMT", "%.6g"), ("SUBSEP", "\x1c") ].map fun (name, text) =>
    (name, Slot.value (.text text.toList))) ++
  ["NR", "NF", "FNR", "RSTART"].map (·, Slot.value (.number 0.0)) ++
  [("RLENGTH", .value (.number (-1.0)))]

/-- The number of the table with a name. It is made if there is none. -/
def tableNumber (name : String) : Run Nat := do
  let s ← get
  match s.slot? name with
  | some (.table number) => return number
  | _ =>
    let number := s.tables.size
    set { s with tables := s.tables.push [] }
    modify (·.withSlot name (.table number))
    return number

def changeTable (number : Nat) (f : Table → Table) : Run Unit :=
  modify fun s => { s with tables := s.tables.modify number f }

def tableOf (number : Nat) : Run Table := do return ((← get).tables[number]?).getD []

/-- A table in which a key has a value. -/
def Table.put (table : Table) (key : List Char) (v : Value) : Table :=
  if (table.lookup key).isSome then
    table.map fun (other, w) => (other, if other == key then v else w)
  else (key, v) :: table

/-! ## Fields -/

def separatorOf (text : List Char) : Run Separator :=
  match Separator.ofText? text with
  | some separator => return separator
  | none =>
    throw (.fault ("regular expression compile failed (bad pattern)\n" ++ String.ofList text))

/-- The fields of a record. If empty lines separate records, the end of a line separates fields. -/
def fieldsOf (record : List Char) : Run (List (List Char)) := do
  let s ← get
  let separator ← separatorOf (s.text "FS")
  match separator with
  | .blanks | .nothing => return separator.cut record
  | _ =>
    if s.text "RS" = [] then return (record.splitOn '\n').flatMap separator.cut
    else return separator.cut record

def countFields : Run Unit :=
  modify fun s => s.withSlot "NF" (.value (.ofNat s.fields.size))

def setRecord (record : List Char) : Run Unit := do
  let fields ← fieldsOf record
  modify fun s => { s with record, fields := (fields.map Value.input).toArray }
  countFields

def joinFields : Run Unit := do
  modify fun s =>
    { s with record :=
        (s.text "OFS").intercalate (s.fields.toList.map (Value.textIn s.numberFormat)) }
  countFields

def resizeFields (count : Nat) : Run Unit := do
  modify fun s =>
    { s with fields := s.fields.extract 0 count ++ Array.replicate (count - s.fields.size) .unset }
  joinFields

/-- The value of a field; field 0 is the record. -/
def State.field (s : State) (n : Nat) : Value :=
  if n = 0 then .input s.record else (s.fields[n - 1]?).getD .unset

def setField (n : Nat) (v : Value) : Run Unit := do
  if n = 0 then setRecord (v.textIn (← get).numberFormat)
  else
    if (← get).fields.size < n then resizeFields n
    modify fun s => { s with fields := s.fields.setIfInBounds (n - 1) v }
    joinFields

def setVariable (name : String) (v : Value) : Run Unit := do
  modify (·.withSlot name (.value v))
  if name = "NF" then resizeFields (integerOf v.float).toNat

/-! ## Output -/

def flushOutput : Run Unit := do
  let s ← get
  onMachine (write 1 s.output)
  set { s with output := .empty }

def flushFile (w : Writer) : Run Unit := do
  match ← onMachine (writeFile (nameText w.name) w.append w.pending) with
  | .ok () => return
  | .error error =>
    throw (.fault ("cannot open \"" ++ nameText w.name ++ "\" for output (" ++
      reasonOf error ++ ")"))

def flushAll : Run Unit := do
  flushOutput
  for w in (← get).writers do
    if !w.command then flushFile w
  modify fun s =>
    { s with writers := s.writers.map fun w =>
        if w.command then w else { w with append := true, pending := .empty } }

def writeOther (command append : Bool) (name : List Char) (bytes : ByteArray) : Run Unit := do
  if !command && name == "/dev/stdout".toList then
    modify fun s => { s with output := s.output ++ bytes }
  else if !command && name == "/dev/stderr".toList then onMachine (write 2 bytes)
  else
    let s ← get
    if !(s.writers.any (·.name == name)) then
      if command then flushAll
      let w : Writer := { name, command, append }
      if !command then flushFile w
      modify fun s => { s with writers := { w with append := true } :: s.writers }
    modify fun s =>
      { s with writers := s.writers.map fun w =>
          if w.name == name then { w with pending := w.pending ++ bytes } else w }

abbrev Starter := String → Effect Unit

/-- End what is written under a name, or everything; a command runs now. -/
def closeWriters (start : Starter) (name : Option (List Char)) : Run Unit := do
  let (closed, others) := (← get).writers.partition fun w => name.all (· == w.name)
  modify fun s => { s with writers := others }
  for w in closed do
    if w.command then
      onMachine do
        let streams := (← get).streams
        connect 0 (← openChannel { medium := .memory w.pending })
        start (nameText w.name)
        recast fun c => { c with streams }
    else flushFile w

/-! ## Input -/

def nextRecord (left : List Char) : Run (Option (List Char × List Char)) := do
  return takeRecord (← separatorOf ((← get).text "RS")) left

def countRecord (names : List String) : Run Unit := do
  for name in names do
    setVariable name (.number (((← get).value name).float + 1.0))

def assignmentIn? (word : List Char) : Option (String × List Char) :=
  match word.span isNameChar with
  | (name, '=' :: value) => if isName name then some (String.ofList name, value) else none
  | _ => none

def openNext : (fuel : Nat) → Run Bool
  | 0 => return false
  | fuel + 1 => do
    let s ← get
    let count := (integerOf (s.value "ARGC").float).toNat
    let arguments ← tableOf (← tableNumber "ARGV")
    if count ≤ s.used then
      if s.named then return false
      modify fun s => { s with named := true }
      let bytes ← onMachine (readRest 0)
      modify fun s => { s with source := some (charsOf bytes) }
      return true
    modify fun s => { s with used := s.used + 1 }
    match arguments.lookup (toString s.used).toList with
    | none => openNext fuel
    | some v =>
      let word := v.textIn s.numberFormat
      match assignmentIn? word with
      | some (name, value) =>
        setVariable name (.input (unescaped value))
        openNext fuel
      | none =>
        if word = [] then openNext fuel
        else
          let path := nameText word
          match ← onMachine (readOperand path) with
          | .error error =>
            throw (.fault ("cannot open \"" ++ path ++ "\" (" ++ reasonOf error ++ ")"))
          | .ok bytes =>
            modify fun s => { s with source := some (charsOf bytes), named := true }
            setVariable "FILENAME" (.text word)
            setVariable "FNR" (.number 0.0)
            return true

def nextInput : (fuel : Nat) → Run (Option (List Char))
  | 0 => return none
  | fuel + 1 => do
    match (← get).source with
    | none => if ← openNext 100000 then nextInput fuel else return none
    | some left =>
      match ← nextRecord left with
      | some (record, left) =>
        modify fun s => { s with source := some left }
        countRecord ["NR", "FNR"]
        return some record
      | none =>
        modify fun s => { s with source := none }
        nextInput fuel

/-- The next record of another file or of what a command prints. There is none if it cannot be
opened; then `opened` is false. -/
def nextOther (start : Starter) (command : Bool) (name : List Char) :
    Run (Option (List Char) × Bool) := do
  let word := nameText name
  let left ← match (← get).readers.lookup name with
    | some left => pure (some left)
    | none =>
      if command then
        flushAll
        pure (some (charsOf (← onMachine (capturing (start word)))))
      else
        match ← onMachine (readOperand word) with
        | .ok bytes => pure (some (charsOf bytes))
        | .error _ => pure none
  match left with
  | none => return (none, false)
  | some left =>
    let keep (left : List Char) : Run Unit := modify fun s =>
      { s with readers := (name, left) :: s.readers.filter (·.1 != name) }
    match ← nextRecord left with
    | some (record, left) =>
      keep left
      return (some record, true)
    | none =>
      keep []
      return (none, true)

end RackTraffic.Shell.Record
