import RackTraffic.Shell.Record.State

/-!
# Running record programs

The rules before the first record are carried out, then those for each record of the input, then
those after the last one. A program that has only rules before the first record does not read its
input.

Only the machine for scripts (`Shell.host`) needs this module, and only `Main` and test runs need
the machine; no result is about it.
-/

namespace RackTraffic.Shell.Record

open Effect

/-! ## Functions of every program -/

def remainder (x y : Float) : Float := x - y * whole (x / y)

def Calculation.apply : Calculation → Float → Float → Float
  | .plus, x, y => x + y
  | .minus, x, y => x - y
  | .times, x, y => x * y
  | .over, x, y => x / y
  | .modulo, x, y => remainder x y
  | .power, x, y => x ^ y

def Comparison.holds : Comparison → Ordering → Bool
  | .less, o => o == .lt
  | .lessOrEqual, o => o != .gt
  | .equal, o => o == .eq
  | .unequal, o => o != .eq
  | .greater, o => o == .gt
  | .greaterOrEqual, o => o != .lt

/-- A part of a text. What is asked for before the first character makes the part longer. -/
def partOf (s : List Char) (first : Float) (length : Option Float) : List Char :=
  let first := integerOf first
  match length with
  | none => s.drop (first - 1).toNat
  | some length =>
    let length := integerOf length
    if first < 1 then s.take (length - first).toNat
    else (s.drop (first - 1).toNat).take length.toNat

/-- The place of the first occurrence of a text in another one, from 1 on; 0 if there is none. -/
def placeOf (part s : List Char) : Nat :=
  (((List.range (s.length + 1)).find? fun n => part.isPrefixOf (s.drop n)).map (· + 1)).getD 0

def numberFunction? : String → Option (Float → Float)
  | "sin" => some Float.sin
  | "cos" => some Float.cos
  | "exp" => some Float.exp
  | "log" => some Float.log
  | "sqrt" => some Float.sqrt
  | "int" => some whole
  | _ => none

def printedText (v : Value) : Run (List Char) := do return v.textIn ((← get).text "OFMT")

def textOf (v : Value) : Run (List Char) := do return v.textIn (← get).numberFormat

def regexOf (text : List Char) : Run Regex :=
  match Regex.ofText? true text with
  | some r => return r
  | none =>
    throw (.fault ("regular expression compile failed (bad pattern)\n" ++ String.ofList text))

def failAtRecord {α : Type} (message : String) : Run α := do
  let s ← get
  throw (.fault ("run time error: " ++ message ++ "\n\tFILENAME=\"" ++
    nameText (s.text "FILENAME") ++ "\" FNR=" ++ nameText (s.text "FNR") ++ " NR=" ++
    nameText (s.text "NR")))

def filled (name : String) (values : List Value) : Run (List Char) := do
  let format ← textOf (values.head?.getD .unset)
  match fill (← get).numberFormat (format.length + 1) format values.tail with
  | some s => return s
  | none =>
    failAtRecord ("not enough arguments passed to " ++ name ++ "(\"" ++ nameText format ++ "\")")

/-! ## Expressions and statements -/

section

variable (start : Starter)

mutual

def evaluate : (fuel : Nat) → Expression → Run Value
  | 0, _ => throw (.fault "function call nesting too deep")
  | fuel + 1, e => do
    match e with
    | .constant v => return v
    | .regex r =>
      return .ofBool (r.find? false (← get).record.toArray 0).isSome
    | .variable name => return (← get).value name
    | .field number =>
      let n := integerOf (← evaluate fuel number).float
      if n < 0 then
        failAtRecord ("negative field index $" ++ toString n)
      return (← get).field n.toNat
    | .element table key =>
      let key ← keyOf fuel key
      let number ← tableNumber table
      match (← tableOf number).lookup key with
      | some v => return v
      | none =>
        changeTable number (·.put key .unset)
        return .unset
    | .group parts =>
      match parts with
      | [e] => evaluate fuel e
      | parts => return .text (← keyOf fuel parts)
    | .assign calculation target value =>
      let v ← evaluate fuel value
      match calculation with
      | none => store fuel target v
      | some calculation =>
        let before ← evaluate fuel target
        store fuel target (.number (calculation.apply before.float v.float))
    | .step up before target =>
      let x := (← evaluate fuel target).float
      let y := if up then x + 1.0 else x - 1.0
      let v ← store fuel target (.number y)
      return if before then v else .number x
    | .choose condition a b =>
      if (← evaluate fuel condition).isTrue then evaluate fuel a else evaluate fuel b
    | .both a b =>
      if (← evaluate fuel a).isTrue then return .ofBool (← evaluate fuel b).isTrue
      return .ofBool false
    | .either a b =>
      if (← evaluate fuel a).isTrue then return .ofBool true
      return .ofBool (← evaluate fuel b).isTrue
    | .not a => return .ofBool !(← evaluate fuel a).isTrue
    | .sign minus a =>
      let x := (← evaluate fuel a).float
      return .number (if minus then -x else x)
    | .calculate calculation a b =>
      let x := (← evaluate fuel a).float
      let y := (← evaluate fuel b).float
      return .number (calculation.apply x y)
    | .join a b =>
      let s ← textOf (← evaluate fuel a)
      let t ← textOf (← evaluate fuel b)
      return .text (s ++ t)
    | .compare comparison a b =>
      let v ← evaluate fuel a
      let w ← evaluate fuel b
      return .ofBool (comparison.holds (Value.compare (← get).numberFormat v w))
    | .matches negated a pattern =>
      let s ← textOf (← evaluate fuel a)
      let r ← patternOf fuel pattern
      return .ofBool ((r.find? false s.toArray 0).isSome != negated)
    | .isIn key table =>
      let key ← keyOf fuel key
      return .ofBool ((← tableOf (← tableNumber table)).lookup key).isSome
    | .call name arguments => callFunction fuel name arguments
    | .apply name arguments => applyFunction fuel name arguments
    | .readRecord target file =>
      match file with
      | some file =>
        let name ← textOf (← evaluate fuel file)
        readOther fuel false name target
      | none =>
        match ← nextInput 100000 with
        | none => return .number 0.0
        | some record =>
          match target with
          | none => setRecord record
          | some target =>
            let _ ← store fuel target (.input record)
          return .number 1.0
    | .readCommand command target =>
      let text ← textOf (← evaluate fuel command)
      readOther fuel true text target

def evaluateAll : (fuel : Nat) → List Expression → Run (List Value)
  | 0, _ => throw (.fault "function call nesting too deep")
  | _, [] => return []
  | fuel + 1, e :: rest => do
    let v ← evaluate fuel e
    return v :: (← evaluateAll fuel rest)

/-- Read a record of another file, or of what a command prints, into a target or as the record. -/
def readOther : (fuel : Nat) → (command : Bool) → List Char → Option Expression → Run Value
  | 0, _, _, _ => throw (.fault "function call nesting too deep")
  | fuel + 1, command, name, target => do
    match ← nextOther start command name with
    | (none, opened) => return .number (if opened then 0.0 else -1.0)
    | (some record, _) =>
      match target with
      | none =>
        setRecord record
        if command then countRecord ["NR"]
      | some target =>
        let _ ← store fuel target (.input record)
        if command then countRecord ["NR"]
      return .number 1.0

def keyOf : (fuel : Nat) → List Expression → Run (List Char)
  | 0, _ => throw (.fault "function call nesting too deep")
  | fuel + 1, key => do
    let mut texts : Array (List Char) := #[]
    for e in key do
      texts := texts.push (← textOf (← evaluate fuel e))
    return ((← get).text "SUBSEP").intercalate texts.toList

def patternOf : (fuel : Nat) → Expression → Run Regex
  | 0, _ => throw (.fault "function call nesting too deep")
  | fuel + 1, e => do
    match e with
    | .regex r => return r
    | e => regexOf (← textOf (← evaluate fuel e))

def store : (fuel : Nat) → Expression → Value → Run Value
  | 0, _, _ => throw (.fault "function call nesting too deep")
  | fuel + 1, target, v => do
    match target with
    | .variable name => setVariable name v
    | .field number => setField (integerOf (← evaluate fuel number).float).toNat v
    | .element table key =>
      let key ← keyOf fuel key
      changeTable (← tableNumber table) (·.put key v)
    | .group [e] =>
      let _ ← store fuel e v
    | _ => pure ()
    return v

/-- Call a function of the program. An argument that is only a name, and that stands for no value
yet, may be a table. -/
def callFunction : (fuel : Nat) → (name : String) → List Expression → Run Value
  | 0, _, _ => throw (.fault "function call nesting too deep")
  | fuel + 1, name, arguments => do
    match (← get).program.functions.find? (·.name == name) with
    | none => throw (.fault ("function " ++ name ++ " never defined"))
    | some function =>
      let mut slots : Array Slot := #[]
      for argument in arguments do
        let slot ← match argument with
          | .variable name =>
            match (← get).slot? name with
            | some (.table number) => pure (.table number)
            | none | some (.value .unset) => do pure (.table (← tableNumber name))
            | some slot => pure slot
          | e => do pure (.value (← evaluate fuel e))
        slots := slots.push slot
      let before := (← get).locals
      let blank := List.replicate (function.parameters.length - slots.size) (Slot.value .unset)
      modify fun s => { s with locals := function.parameters.zip (slots.toList ++ blank) }
      let r ← caught (runAll fuel function.body)
      modify fun s => { s with locals := before }
      match r with
      | .ok () => return .unset
      | .error (.finish v) => return v
      | .error leave => throw leave

def applyFunction : (fuel : Nat) → (name : String) → List Expression → Run Value
  | 0, _, _ => throw (.fault "function call nesting too deep")
  | fuel + 1, name, arguments => do
    let record : Run Value := do return (← get).field 0
    match name, arguments with
    | "length", [.variable table] =>
      match (← get).slot? table with
      | some (.table number) => return .ofNat (← tableOf number).length
      | _ => return .ofNat (← textOf ((← get).value table)).length
    | "split", text :: .variable table :: rest =>
      let s ← textOf (← evaluate fuel text)
      let separator ← match rest with
        | [] => separatorOf ((← get).text "FS")
        | .regex r :: _ => pure (.regex r)
        | e :: _ => separatorOf (← textOf (← evaluate fuel e))
      let parts := separator.cut s
      let entries : Table := parts.zipIdx.map fun (part, n) =>
        ((toString (n + 1)).toList, .input part)
      changeTable (← tableNumber table) fun _ => entries.reverse
      return .ofNat parts.length
    | "sub", pattern :: replacement :: rest | "gsub", pattern :: replacement :: rest =>
      let r ← patternOf fuel pattern
      let replacement ← textOf (← evaluate fuel replacement)
      let target := rest.head?.getD (.field (.constant (.number 0.0)))
      let s ← textOf (← evaluate fuel target)
      let (result, count) :=
        replaceFrom r (name = "gsub") replacement s.toArray (2 * s.length + 2) 0 false
      if 0 < count then
        let _ ← store fuel target (.text result)
      return .ofNat count
    | "match", text :: pattern :: _ =>
      let s ← textOf (← evaluate fuel text)
      let r ← patternOf fuel pattern
      let (first, length) : Float × Float := match r.find? false s.toArray 0 with
        | some found => ((found.first + 1).toFloat, (found.last - found.first).toFloat)
        | none => (0.0, -1.0)
      setVariable "RSTART" (.number first)
      setVariable "RLENGTH" (.number length)
      return .number first
    | _, _ =>
      let values ← if arguments.isEmpty then do pure [← record] else evaluateAll fuel arguments
      let value (n : Nat) : Value := (values[n]?).getD .unset
      let text (n : Nat) : Run (List Char) := textOf (value n)
      if let some f := numberFunction? name then return .number (f (value 0).float)
      match name with
      | "length" => return .ofNat (← text 0).length
      | "substr" =>
        return .text (partOf (← text 0) (value 1).float ((values[2]?).map Value.float))
      | "index" => return .ofNat (placeOf (← text 1) (← text 0))
      | "sprintf" => return .text (← filled name values)
      | "atan2" => return .number (Float.atan2 (value 0).float (value 1).float)
      | "tolower" => return .text ((← text 0).map Char.toLower)
      | "toupper" => return .text ((← text 0).map Char.toUpper)
      | "system" =>
        flushAll
        onMachine (start (nameText (← text 0)))
        return .ofNat (← onMachine (do return (← get).status)).toNat
      | "close" =>
        let other ← text 0
        closeWriters start (some other)
        modify fun s => { s with readers := s.readers.filter (·.1 != other) }
        return .number 0.0
      | "fflush" =>
        flushAll
        return .number 0.0
      | _ => return .number 0.0

def run : (fuel : Nat) → Statement → Run Unit
  | 0, _ => throw (.fault "function call nesting too deep")
  | fuel + 1, statement => do
    let printTo (bytes : ByteArray) (destination : Option Destination) : Run Unit := do
      match destination with
      | none => modify fun s => { s with output := s.output ++ bytes }
      | some (.file append name) =>
        let name ← textOf (← evaluate fuel name)
        writeOther false append name bytes
      | some (.command text) =>
        let text ← textOf (← evaluate fuel text)
        writeOther true false text bytes
    match statement with
    | .nothing => return
    | .evaluate e =>
      let _ ← evaluate fuel e
    | .print arguments destination =>
      let line ← match arguments with
        | [] => do pure (← get).record
        | arguments =>
          let mut texts : Array (List Char) := #[]
          for v in ← evaluateAll fuel arguments do texts := texts.push (← printedText v)
          pure (((← get).text "OFS").intercalate texts.toList)
      printTo (bytesOf (line ++ (← get).text "ORS")) destination
    | .format arguments destination =>
      let s ← filled "printf" (← evaluateAll fuel arguments)
      printTo (bytesOf s) destination
    | .block body => runAll fuel body
    | .branch condition yes no =>
      if (← evaluate fuel condition).isTrue then run fuel yes else run fuel no
    | .loop late condition step body => repeatLoop fuel late condition step body
    | .forEach name table body =>
      visitKeys fuel name body (visitOrder (← tableOf (← tableNumber table)))
    | .leave => throw .loop
    | .again => throw .round
    | .next => throw .next
    | .exit status =>
      if let some e := status then
        let status := (integerOf (← evaluate fuel e).float).toNat.toUInt8
        modify fun s => { s with status }
      throw .exit
    | .finish value =>
      match value with
      | some e =>
        let v ← evaluate fuel e
        throw (.finish v)
      | none => throw (.finish .unset)
    | .delete table key =>
      let number ← tableNumber table
      match key with
      | [] => changeTable number fun _ => []
      | key =>
        let key ← keyOf fuel key
        changeTable number fun table => table.filter (·.1 != key)

def runAll : (fuel : Nat) → List Statement → Run Unit
  | 0, _ => throw (.fault "function call nesting too deep")
  | _, [] => return
  | fuel + 1, statement :: rest => do
    run fuel statement
    runAll fuel rest

def runBody : (fuel : Nat) → Statement → Run Bool
  | 0, _ => throw (.fault "function call nesting too deep")
  | fuel + 1, body => do
    match ← caught (run fuel body) with
    | .ok () | .error .round => return true
    | .error .loop => return false
    | .error leave => throw leave

def repeatLoop : (fuel : Nat) → (late : Bool) → Option Expression → (step body : Statement) →
    Run Unit
  | 0, _, _, _, _ => throw (.fault "function call nesting too deep")
  | fuel + 1, late, condition, step, body => do
    let goesOn ← match condition with
      | some e => if late then pure true else do pure (← evaluate fuel e).isTrue
      | none => pure true
    if goesOn then
      if ← runBody fuel body then
        run fuel step
        repeatLoop fuel false condition step body

def visitKeys : (fuel : Nat) → (name : String) → Statement → List (List Char) → Run Unit
  | 0, _, _, _ => throw (.fault "function call nesting too deep")
  | _, _, _, [] => return
  | fuel + 1, name, body, key :: rest => do
    setVariable name (.input key)
    if ← runBody fuel body then visitKeys fuel name body rest

end

/-! ## Programs -/

def depth : Nat := 1000000

def runRules (isMeant : Nat → Selection → Run Bool) : Run Unit := do
  for ((selection, body), n) in (← get).program.rules.zipIdx do
    if ← isMeant n selection then runAll start depth body

def isSelected (n : Nat) (selection : Selection) : Run Bool := do
  let holds (e : Expression) : Run Bool := do return (← evaluate start depth e).isTrue
  match selection with
  | .beforeFirst | .afterLast => return false
  | .each => return true
  | .meeting condition => holds condition
  | .between first last =>
    if !(← get).within.contains n then
      if !(← holds first) then return false
    let ends ← holds last
    modify fun s =>
      let others := s.within.filter (· != n)
      { s with within := if ends then others else n :: others }
    return true

def runRecords : (fuel : Nat) → Run Unit
  | 0 => return
  | fuel + 1 => do
    match ← nextInput depth with
    | none => return
    | some record =>
      setRecord record
      match ← caught (runRules start (isSelected start)) with
      | .ok () | .error .next => runRecords fuel
      | .error leave => throw leave

def runProgram : Run Unit := do
  let rules := (← get).program.rules
  let isFirst : Selection → Bool
    | .beforeFirst => true
    | _ => false
  let isLast : Selection → Bool
    | .afterLast => true
    | _ => false
  let body : Run Unit := do
    runRules start fun _ selection => return isFirst selection
    if !rules.all fun (selection, _) => isFirst selection then runRecords start depth
  match ← caught body with
  | .ok () | .error .exit => pure ()
  | .error leave => throw leave
  match ← caught (runRules start fun _ selection => return isLast selection) with
  | .ok () | .error .exit => pure ()
  | .error leave => throw leave
  closeWriters start none
  flushOutput

def State.initial (program : Program) (separator : Option (List Char))
    (arguments : List (List Char)) (environment : List (List Char × List Char)) : State :=
  let words : Table := arguments.zipIdx.map fun (word, n) => ((toString n).toList, .input word)
  let values : Table := environment.map fun (name, value) => (name, .input value)
  { program
    globals := (separator.toList.map fun s => ("FS", .value (.text s))) ++
      [ ("ARGV", .table 0), ("ENVIRON", .table 1), ("ARGC", .value (.ofNat arguments.length)) ] ++
      initialGlobals
    tables := #[words.reverse, values] }

end

def tool (start : Starter) : Tool := fun _ words => do
  let letters : Options.Letters := { plain := "", withArgument := "Fvf" }
  match Options.read letters false words with
  | .error (.unknownOption word) =>
    say "awk" ("not an option: " ++ word)
    done 2
  | .error fault =>
    say "awk" fault.message
    done 2
  | .ok o =>
    let stop (message : String) : Effect Unit := do
      say "awk" message
      done 2
    let files := o.all 'f'
    let mut text : List Char := []
    let mut arguments := o.operands
    match files, o.operands with
    | [], [] =>
      writeLine 2 "Usage: mawk [Options] [Program] [file ...]"
      done 2
      return
    | [], program :: rest =>
      text := rawChars program
      arguments := rest
    | _, _ =>
      for file in files do
        match ← readOperand file with
        | .ok bytes => text := text ++ charsOf bytes
        | .error error =>
          stop ("cannot open \"" ++ file ++ "\" (" ++ reasonOf error ++ ")")
          return
    match Program.ofText text with
    | .error fault => stop ("line " ++ toString fault.line ++ ": " ++ fault.reason)
    | .ok program =>
      let separator := (o.last? 'F').map fun s => unescaped (rawChars s)
      let environment := (← get).environment.map fun (name, v) =>
        (rawChars name, rawChars (v.value.getD ""))
      let state := State.initial program separator (("awk" :: arguments).map rawChars) environment
      let act : Run Unit := do
        for pair in o.all 'v' do
          if let some (name, value) := assignmentIn? (rawChars pair) then
            setVariable name (.input (unescaped value))
        runProgram start
      let (r, s) ← (act.run).run state
      match r with
      | .ok () => done s.status
      | .error (.fault message) =>
        stop message
        write 1 s.output
      | .error _ =>
        write 1 s.output
        done s.status

end RackTraffic.Shell.Record
