import RackTraffic.Shell.Builtin
import RackTraffic.Shell.Tool.Search

/-!
# Programs that start others

Some programs do nothing but prepare the start of another one, whose words follow their own: they
change its variables, limit its time, give it words of their input or run it for files.

Only the machine for scripts (`Shell.host`) needs this module, and only `Main` and test runs need
the machine; no result is about it.
-/

namespace RackTraffic.Shell

open Effect

abbrev Start := List String → Effect Unit

def searchPath : Effect (List String) := do return (((← get).text? "PATH").getD "").splitOn ":"

/-- Start a program if it is found. `complaint` says what is said otherwise. -/
def startFound (start : Start) (name : String) (complaint : String → String → String) : Start :=
  fun words => do
    let program := words.head?.getD ""
    match Program.find (← get).disk (← searchPath) program with
    | .ok _ => start words
    | .error error =>
      say name (complaint program (reasonOf error))
      done (if error = .notFound || error = .notADirectory then 127 else 126)

def commandComplaint (program reason : String) : String :=
  "failed to run command '" ++ program ++ "': " ++ reason

def quotedWords (s : List Char) : List String :=
  go s none
where
  go : List Char → Option (List Char) → List String
    | [], word => word.toList.map fun w => String.ofList w.reverse
    | '\\' :: c :: rest, word => go rest (some (c :: word.getD []))
    | '\'' :: rest, word => inQuote '\'' rest (word.getD [])
    | '"' :: rest, word => inQuote '"' rest (word.getD [])
    | c :: rest, word =>
      if isNumberBlank c then (word.toList.map fun w => String.ofList w.reverse) ++ go rest none
      else go rest (some (c :: word.getD []))
  inQuote (quote : Char) : List Char → List Char → List String
    | [], word => [String.ofList word.reverse]
    | c :: rest, word =>
      if c == quote then go rest (some word) else inQuote quote rest (c :: word)

def env (start : Start) : Tool := fun name words => do
  let letters : Options.Letters := { plain := "i0v", withArgument := "uCS" }
  match Options.read letters false words with
  | .error fault => refuse name fault 125
  | .ok o =>
    let operands := (o.all 'S').flatMap (fun text => quotedWords text.toList) ++ o.operands
    let pairs := operands.takeWhile (·.toList.contains '=')
    let words := operands.drop pairs.length
    let bindings := (← get).bindings
    recast fun c =>
      let c := if o.has 'i' then { c with bindings := c.bindings.filter fun (_, v) => !v.exported }
        else c
      let c := (o.all 'u').foldl (fun c name => c.setVariable name none) c
      let c := pairs.foldl (fun c pair =>
        let (name, value) := splitAssignment pair
        c.setVariable name (some { value, exported := true })) c
      if (c.text? "PATH").isSome then c
      else c.setVariable "PATH" (some { value := some "/bin:/usr/bin" })
    afterwards (do
      match words with
      | [] =>
        for (name, v) in (← get).environment do
          printLine (name ++ "=" ++ v.value.getD "")
        done 0
      | words =>
        startFound start name (fun program reason => "'" ++ program ++ "': " ++ reason) words)
      fun c => { c with bindings }

def timeout (start : Start) : Tool := fun name words => do
  match Options.read { plain := "v", withArgument := "sk" } false words with
  | .error fault => refuse name fault 125
  | .ok o =>
    match o.operands with
    | [] | [_] => refuse name .missingOperand 125
    | time :: words =>
      match Decimal.readDecimal? (time.toList.filter (· != 's')) with
      | none => refuse name (.other ("invalid time interval '" ++ time ++ "'")) 125
      | some seconds =>
        let start := startFound start name commandComplaint
        let s ← get
        let ends := s.clock + (seconds * 1000.0).toUInt64.toNat
        let tighter := s.limit.all (ends < ·) && ends ≠ s.clock
        if !tighter then start words
        else
          modify fun s => { s with limit := some ends }
          let r ← attempt (start words)
          modify fun t => { t with limit := s.limit }
          match r with
          | .error .outOfTime =>
            waitUntil ends
            done 124
          | .error stop => throw stop
          | .ok () => return

/-- Start commands one after the other. `failed` is the status if one has failed. -/
def startAll (start : Start) : List (List String) → (failed : UInt8) → Effect Unit
  | [], failed => done failed
  | words :: rest, failed => do
    start words
    let status := (← get).status
    if status = 126 || status = 127 then done status
    else startAll start rest (if status = 0 then failed else 123)

def xargs (start : Start) : Tool := fun name words => do
  match Options.read { plain := "r0t", withArgument := "nIdL" } false words with
  | .error fault => refuse name fault 1
  | .ok o =>
    let input := textOfBytes (← readRest 0)
    let words := quotedWords input.toList
    let command := if o.operands.isEmpty then ["echo"] else o.operands
    let calls : List (List String) := match o.last? 'I' with
      | some mark =>
        ((lineTexts input.toList).filter (!·.isEmpty)).map fun line =>
          command.map fun word => (String.ofList line).intercalate (word.splitOn mark)
      | none =>
        let count := ((o.last? 'n').bind String.toNat?).getD (words.length + 1)
        let groups := (List.range ((words.length + count - 1) / max count 1)).map fun n =>
          (words.drop (n * count)).take count
        if words.isEmpty then (if o.has 'r' then [] else [command])
        else groups.map (command ++ ·)
    done 0
    startAll (startFound start name fun program reason => program ++ ": " ++ reason) calls 0

def which : Tool := fun _ words => do
  done 0
  for word in words do
    match Program.find (← get).disk (← searchPath) word with
    | .ok (_, path) => printLine path
    | .error _ => done 1

def startPlainly (start : Start) : Tool := fun name words => do
  match Options.read { plain := "", withArgument := "n" } false words with
  | .error fault => refuse name fault 125
  | .ok o =>
    if !o.operands.isEmpty then startFound start name commandComplaint o.operands
    else if name = "nice" then
      printLine "0"
      done 0
    else refuse name .missingOperand 125

def starter? : (name : String) → Option (Start → Tool)
  | "env" => some env
  | "timeout" => some timeout
  | "xargs" => some xargs
  | "which" => some fun _ => which
  | "nice" | "nohup" => some startPlainly
  | "find" => some fun start name words =>
    search (startFound start name fun program reason => "'" ++ program ++ "': " ++ reason)
      name words
  | _ => none

end RackTraffic.Shell
