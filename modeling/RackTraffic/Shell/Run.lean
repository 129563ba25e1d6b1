import RackTraffic.Shell.Call
import RackTraffic.Shell.Expansion
import RackTraffic.Shell.Record.Run
import RackTraffic.Shell.Starter

/-!
# Running scripts

A script is run instruction by instruction. `fuel` bounds how deeply instructions nest and how often
a loop repeats; a script that needs more is stopped.

An option of the shell ends a script when a command fails. Commands whose failure is tested, such as
conditions, are exempt; `tested` says that an instruction is one of them.

The members of a pipeline run one after the other, each with what the one before has printed. What
runs in the background is done step by step, as soon as the time for a step has come.

Only the machine for scripts (`Shell.host`) needs this module, and only `Main` and test runs need
the machine; no result is about it.
-/

namespace RackTraffic.Shell

open Effect

/-! ## Frames -/

def keepStreams (streams : List (Nat × Nat)) (act : Effect Unit) : Effect Unit :=
  afterwards act fun c => { c with streams }

def named (name : String) (act : Effect Unit) : Effect Unit := do
  let before := (← get).command
  recast fun c => { c with command := some name }
  afterwards act fun c => { c with command := before }

def restoreVariables (before : List (String × Option Variable)) (c : Context) : Context :=
  before.foldl (fun c (name, v) => c.setVariable name v) c

def newProcess : Effect Nat := do
  let process := (← get).processes + 1
  modify fun s => { s with processes := process }
  return process

def Context.forSubshell (c : Context) (self : Nat) : Context :=
  { c with
    self
    outer := (c.self, c.traps) :: c.outer
    traps := c.traps.filter (·.2 == "")
    lastJob := c.lastJob
    loops := 0 }

def openReason (reading : Bool) : IoError → String
  | .notFound | .notADirectory => if reading then "No such file" else "Directory nonexistent"
  | error => reasonOf error

/-! ## Instructions -/

def Instruction.steps : Instruction → List Instruction
  | .sequence first second => first.steps ++ second.steps
  | .subshell body => body.steps
  | .nothing => []
  | body => [body]

/-! ## Parts of instructions -/

/-- Open a channel for a redirection; nothing is one for a stream that is closed. -/
def openTarget (kind : Redirect) (target : String) : Effect (Except String (Option Nat)) := do
  let share (stream : Nat) (target : String) : Effect (Except String (Option Nat)) := do
    match (← get).streams.lookup stream with
    | some number => return .ok (some number)
    | none => return .error (target ++ ": Bad file descriptor")
  let new (channel : Channel) : Effect (Except String (Option Nat)) := do
    return .ok (some (← openChannel channel))
  let reading := kind == .read
  let failed (error : IoError) : Except String (Option Nat) :=
    .error ("cannot " ++ (if reading then "open " else "create ") ++ target ++ ": " ++
      openReason reading error)
  match kind with
  | .document _ => new { medium := .memory target.toUTF8 }
  | .copy =>
    if target = "-" then return .ok none
    else if target ≠ "" && target.toList.all Char.isDigit then
      share (numberIn target.toList) target
    else abort "Syntax error: Bad fd number"
  | _ =>
    let d := (← get).disk
    let inPlace (place : Place) : Effect (Except String (Option Nat)) := do
      if kind == .write || kind == .overwrite then
        modify fun s =>
          match s.disk.at? place with
          | some (.file _ executable) =>
            { s with disk := s.disk.put place (.file .empty executable) }
          | _ => s
      new { medium := .file place, appends := kind == .append }
    let reopen (stream : Nat) : Effect (Except String (Option Nat)) := do
      match ← channel? stream with
      | some (_, { medium := .file place, .. }) => inPlace place
      | _ => share stream target
    match device? target with
    | some "null" => new { medium := .nowhere }
    | some "stdin" => reopen 0
    | some "stdout" => reopen 1
    | some "stderr" => reopen 2
    | _ =>
      match d.find ⟨target⟩ with
      | .ok (place, .file ..) =>
        if kind == .write && (← get).has 'C' then return failed .alreadyExists
        inPlace place
      | .ok (_, .directory) =>
        if reading then new { medium := .nowhere } else return failed .isADirectory
      | .error error =>
        if reading then return failed error
        match d.write ⟨target⟩ .empty with
        | .error error => return failed error
        | .ok disk =>
          modify fun s => { s with disk }
          match disk.find ⟨target⟩ with
          | .ok (place, _) => inPlace place
          | .error error => return failed error

def inLoop (act : Effect Unit) : Effect Unit := do
  let loops := (← get).loops
  recast fun c => { c with loops := loops + 1 }
  afterwards act fun c => { c with loops }

def trace (number : Option Nat) (line : String) : Effect Unit := do
  let streams := (← get).streams
  if let some number := number then
    connect 2 number
    writeLine 2 line
    recast fun c => { c with streams }

def describe (long : Bool) (names : List String) : Effect Unit := do
  done 0
  for name in names do
    let s ← get
    let tell (what : String) : Effect Unit :=
      printLine (if long then name ++ " is " ++ what else name)
    if reservedWords.contains name then tell "a shell keyword"
    else if (s.functions.lookup name).isSome then tell "a shell function"
    else if isBuiltinName name then
      tell (if specialBuiltins.contains name then "a special shell builtin" else "a shell builtin")
    else
      match Program.find s.disk (((s.text? "PATH").getD "").splitOn ":") name with
      | .ok (_, path) => printLine (if long then name ++ " is " ++ path else path)
      | .error _ =>
        if long then printLine (name ++ ": not found")
        done 127

def initialVariables (c : Context) (directory : Place) : List (String × Variable) :=
  let given := c.environment.filter (·.1 != "PWD")
  let path := if given.any (·.1 == "PATH") then []
    else [("PATH", ":".intercalate programDirectories)]
  let own := path ++ [("IFS", " \t\n"), ("OPTIND", "1"), ("PS4", "+ ")]
  ("PWD", { value := some (Disk.pathTo directory).text, exported := true }) ::
    given ++ own.map fun (name, value) => (name, { value := some value })

def unmet {α : Type} (name wording : String) : Effect α := abort (name ++ ": " ++ wording)

mutual

/-- The fragments that a piece of a word stands for. With `inner` it belongs to the word of a
parameter, whose characters are split. -/
def expandPiece : (fuel : Nat) → (inner : Bool) → Piece → Effect (List Fragment)
  | 0, _, _ => throw .exhausted
  | fuel + 1, inner, piece => do
    let s ← get
    let demandSet (name : String) (value : Option String) : Effect String := do
      match value with
      | some value => return value
      | none =>
        if s.has 'u' && name ≠ "@" && name ≠ "*" then unmet name "parameter not set"
        return ""
    match piece with
    | .char c quoted =>
      return [.mark ⟨c, if quoted then .quoted else if inner then .value else .plain⟩]
    | .quotes => return [.present]
    | .unfit => abort "Bad substitution"
    | .value name quoted none =>
      return valueFragments s name quoted (← demandSet name (s.value? name))
    | .value name quoted (some (adjustment, word)) =>
      let value := s.value? name
      let isUnset (orEmpty : Bool) : Bool := value.all fun v => orEmpty && v.isEmpty
      let own := valueFragments s name quoted (value.getD "")
      match adjustment with
      | .fallback orEmpty =>
        let word := if quoted then word else expandHome s.toContext false word
        if isUnset orEmpty then expandPieces fuel (!quoted) word else return own
      | .instead orEmpty =>
        if isUnset orEmpty then return [] else expandPieces fuel (!quoted) word
      | .assign orEmpty =>
        if !isUnset orEmpty then return own
        let text := textOf (joinedText s.toContext (← expandPieces fuel false word))
        if !isName name.toList then unmet name "bad variable name"
        assign name text
        return fragmentsOf (if quoted then .quoted else .value) text.toList
      | .demand orEmpty =>
        if !isUnset orEmpty then return own
        let text := textOf (joinedText s.toContext (← expandPieces fuel false word))
        unmet name (if !word.isEmpty then text
          else if orEmpty then "parameter not set or null" else "parameter not set")
      | .trimStart longest =>
        let value ← demandSet name value
        let pattern := joinedText s.toContext (← expandPieces fuel false word)
        return fragmentsOf (if quoted then .quoted else .value)
          (cutStart longest pattern value.toList)
      | .trimEnd longest =>
        let value ← demandSet name value
        let pattern := joinedText s.toContext (← expandPieces fuel false word)
        return fragmentsOf (if quoted then .quoted else .value)
          (cutEnd longest pattern value.toList)
    | .length name quoted =>
      let value ← demandSet name (s.value? name)
      return fragmentsOf (if quoted then .quoted else .value)
        (Nat.toDigits 10 value.utf8ByteSize)
    | .command line text quoted =>
      let process ← newProcess
      let bytes ← capturing do
        let c := (← get).toContext.forSubshell process
        let _ ← nested c (runProcess fuel (runScript fuel false (.ofText line text)))
      let status := (← get).status
      recast fun c => { c with substitution := some status, status := s.status }
      return fragmentsOf (if quoted then .quoted else .value)
        (textOfBytes (withoutFinalLines bytes)).toList
    | .arithmetic expression quoted =>
      let text := textOf (joinedText s.toContext (← expandPieces fuel false expression))
      let c := (← get).toContext
      match Arithmetic.run text fun name => (c.text? name).getD "" with
      | .error fault => abort fault.message
      | .ok (n, assigned) =>
        for (name, n) in assigned do assign name (toString n)
        return fragmentsOf (if quoted then .quoted else .value) (toString n).toList

def expandPieces : (fuel : Nat) → (inner : Bool) → Word → Effect (List Fragment)
  | 0, _, _ => throw .exhausted
  | fuel + 1, inner, word => do
    let mut parts : Array (List Fragment) := #[]
    for piece in word do
      parts := parts.push (← expandPiece fuel inner piece)
    return parts.toList.flatten

def expandMarks : (fuel : Nat) → Word → Effect (List Mark)
  | 0, _ => throw .exhausted
  | fuel + 1, word => do
    let fragments ← expandPieces fuel false (expandHome (← get).toContext false word)
    return joinedText (← get).toContext fragments

/-- The text of a word that is not split. -/
def expandText : (fuel : Nat) → Word → Effect String
  | 0, _ => throw .exhausted
  | fuel + 1, word => do return textOf (← expandMarks fuel word)

/-- The fields that words stand for. -/
def expandFields : (fuel : Nat) → List Word → Effect (List String)
  | 0, _ => throw .exhausted
  | fuel + 1, words => do
    let mut found : Array (List String) := #[]
    for word in words do
      let fragments ← expandPieces fuel false (expandHome (← get).toContext false word)
      let s ← get
      for field in fieldsOf s.separators fragments do
        found := found.push (if s.has 'f' then [textOf field] else pathsOf s.disk field)
    return found.toList.flatten

def redirect : (fuel : Nat) → List Redirection → Effect Bool
  | 0, _ => throw .exhausted
  | fuel + 1, redirections => do
    let mut targets : Array (Redirection × String) := #[]
    for r in redirections do
      targets := targets.push (r, ← expandText fuel r.target)
    for (r, target) in targets do
      match ← openTarget r.kind target with
      | .ok (some number) => connect r.stream number
      | .ok none => disconnect r.stream
      | .error reason =>
        fail reason 2
        return false
    return true
def run : (fuel : Nat) → (tested : Bool) → Instruction → Effect Unit
  | 0, _, _ => throw .exhausted
  | fuel + 1, tested, body => do
    let check : Effect Unit := do
      runTraps fuel
      let s ← get
      if !tested && s.has 'e' && s.status ≠ 0 then throw .exit
    match body with
    | .nothing => return
    | .simple line assignments words redirections =>
      recast fun c => { c with line, substitution := none }
      runSimple fuel tested assignments words redirections
      check
    | .redirected line redirections body =>
      recast fun c => { c with line }
      let streams := (← get).streams
      keepStreams streams do
        if ← redirect fuel redirections then run fuel tested body
      check
    | .sequence first second =>
      run fuel tested first
      run fuel tested second
    | .both first second =>
      run fuel true first
      if (← get).status = 0 then run fuel tested second
    | .either first second =>
      run fuel true first
      if (← get).status ≠ 0 then run fuel tested second
    | .negated body =>
      run fuel true body
      done (if (← get).status = 0 then 1 else 0)
    | .pipeline members =>
      runPipeline fuel tested members
      check
    | .background body => startJob fuel body
    | .subshell body =>
      let process ← newProcess
      let c := (← get).toContext.forSubshell process
      let _ ← nested c (runProcess fuel (run fuel tested body))
      check
    | .branch condition yes no =>
      run fuel true condition
      if (← get).status = 0 then run fuel tested yes
      else
        match no with
        | .nothing => done 0
        | no => run fuel tested no
    | .loop untilDone condition body =>
      inLoop (repeatLoop fuel tested untilDone condition body 0)
    | .forEach line name words body =>
      recast fun c => { c with line }
      let values ← match words with
        | some words => expandFields fuel words
        | none => do pure (← get).arguments
      inLoop do
        done 0
        forValues fuel tested name body values
    | .choose line word arms =>
      recast fun c => { c with line }
      let text := (← expandText fuel word).toList
      chooseArm fuel tested text arms
    | .define name body =>
      recast fun c => { c with functions := (name, body) :: c.functions.filter (·.1 != name) }
      done 0
def runBody : (fuel : Nat) → (tested : Bool) → Instruction → Effect Bool
  | 0, _, _ => throw .exhausted
  | fuel + 1, tested, body => do
    match ← attempt (run fuel tested body) with
    | .ok () => return true
    | .error (.leave n) =>
      if 1 < n then throw (.leave (n - 1))
      return false
    | .error (.again n) =>
      if 1 < n then throw (.again (n - 1))
      return true
    | .error stop => throw stop

/-- Run a loop from its condition on. `last` is the status of the last round. -/
def repeatLoop : (fuel : Nat) → (tested untilDone : Bool) → (condition body : Instruction) →
    (last : UInt8) → Effect Unit
  | 0, _, _, _, _, _ => throw .exhausted
  | fuel + 1, tested, untilDone, condition, body, last => do
    if ← runBody fuel true condition then
      if ((← get).status = 0) != untilDone then
        if ← runBody fuel tested body then
          repeatLoop fuel tested untilDone condition body (← get).status
      else done last

def forValues : (fuel : Nat) → (tested : Bool) → (name : String) → Instruction → List String →
    Effect Unit
  | 0, _, _, _, _ => throw .exhausted
  | _, _, _, _, [] => return
  | fuel + 1, tested, name, body, value :: values => do
    assign name value
    if ← runBody fuel tested body then forValues fuel tested name body values

def chooseArm : (fuel : Nat) → (tested : Bool) → List Char → List (List Word × Instruction) →
    Effect Unit
  | 0, _, _, _ => throw .exhausted
  | _, _, _, [] => done 0
  | fuel + 1, tested, text, (patterns, body) :: arms => do
    let mut found := false
    for pattern in patterns do
      if !found then found := patternMatches (← expandMarks fuel pattern) text
    if found then
      match body with
      | .nothing => done 0
      | body => run fuel tested body
    else chooseArm fuel tested text arms

def runSimple : (fuel : Nat) → (tested : Bool) → List (String × Word) → List Word →
    List Redirection → Effect Unit
  | 0, _, _, _, _ => throw .exhausted
  | fuel + 1, tested, assignments, words, redirections => do
    let name := (words.head?.bind bareText?).getD ""
    let fields ← if ["export", "readonly", "local"].contains name then
        expandMarkedFields fuel words
      else expandFields fuel words
    let s ← get
    let isSpecial := fields.head?.any specialBuiltins.contains
    let traceTo := s.streams.lookup 2
    if !(← redirect fuel redirections) then
      recast fun c => { c with streams := s.streams }
      if isSpecial then throw .exit
      return
    let keeps := fields = ["exec"]
    let act : Effect Unit := do
      let mut made : Array (String × String) := #[]
      for (name, word) in assignments do
        made := made.push (name, ← expandText fuel (expandHome (← get).toContext true word))
      let values := made.toList
      if (← get).has 'x' then
        let shown := values.map (fun (name, value) => name ++ "=" ++ value) ++ fields
        trace traceTo ("+ " ++ " ".intercalate shown)
      match fields with
      | [] =>
        for (name, value) in values do assign name value
        done ((← get).substitution.getD 0)
      | name :: arguments => execute fuel tested values name arguments
    if keeps then act else keepStreams s.streams act
/-- The fields of words of which some are assignments, which are not split. -/
def expandMarkedFields : (fuel : Nat) → List Word → Effect (List String)
  | 0, _ => throw .exhausted
  | fuel + 1, words => do
    let mut found : Array (List String) := #[]
    for word in words do
      match assignment? word with
      | some (name, value) =>
        let value := expandHome (← get).toContext true value
        found := found.push [← expandText fuel (plainWord (name ++ "=") ++ value)]
      | none => found := found.push (← expandFields fuel [word])
    return found.toList.flatten

def execute : (fuel : Nat) → (tested : Bool) → List (String × String) → (name : String) →
    List String → Effect Unit
  | 0, _, _, _, _ => throw .exhausted
  | fuel + 1, tested, values, name, arguments => do
    let s ← get
    let before := values.map fun (name, _) => (name, s.binding? name)
    let set (exported : Bool) : Effect Unit := do
      for (name, value) in values do
        assign name value
        if exported then
          recast fun c => c.setVariable name (some { value := some value, exported := true })
    if specialBuiltins.contains name then
      set false
      runBuiltin fuel tested name arguments
    else
      match s.functions.lookup name with
      | some body =>
        set true
        afterwards (callFunction fuel tested body arguments) (restoreVariables before)
      | none =>
        set true
        afterwards (
          if isBuiltinName name then runBuiltin fuel tested name arguments
          else runProgram fuel none (name :: arguments)) (restoreVariables before)

def callFunction : (fuel : Nat) → (tested : Bool) → Instruction → List String → Effect Unit
  | 0, _, _, _ => throw .exhausted
  | fuel + 1, tested, body, arguments => do
    let s ← get
    recast fun c => { c with arguments, loops := 0, shadowed := [] :: c.shadowed }
    let leave (c : Context) : Context :=
      { restoreVariables (c.shadowed.head?.getD []) c with
        arguments := s.arguments, loops := s.loops, shadowed := s.shadowed }
    match ← attempt (run fuel tested body) with
    | .ok () | .error .finish => recast leave
    | .error stop =>
      recast leave
      throw stop

def runBuiltin : (fuel : Nat) → (tested : Bool) → (name : String) → List String → Effect Unit
  | 0, _, _, _ => throw .exhausted
  | fuel + 1, tested, name, arguments =>
    match builtin? name with
    | some act => named name (act arguments)
    | none => do
      match name with
      | "eval" =>
        let text := " ".intercalate arguments
        done 0
        named name (runScript fuel tested (.ofText 1 text))
      | "." =>
        match arguments with
        | [] => done 0
        | file :: _ =>
          let s ← get
          let paths := if file.toList.contains '/' then [file]
            else (((s.text? "PATH").getD "").splitOn ":").map fun directory =>
              ((⟨directory⟩ : Path).join file).text
          match paths.find? fun path => s.disk.isFile ⟨path⟩ with
          | none =>
            named name (abort (if file.toList.contains '/' then
              "cannot open " ++ file ++ ": No such file" else file ++ ": not found"))
          | some path =>
            let text := textOfBytes ((s.disk.read ⟨path⟩).toOption.getD .empty)
            done 0
            named path do
              match ← attempt (runScript fuel tested (.ofText 1 text)) with
              | .ok () | .error .finish => return
              | .error stop => throw stop
      | "exec" =>
        match arguments with
        | [] => done 0
        | words =>
          let s ← get
          named name (runProgram fuel (some s.self) words)
          recast fun c => { c with traps := c.traps.filter (·.1 != "EXIT") }
          throw .exit
      | "command" =>
        match arguments with
        | [] => done 0
        | "-v" :: names => describe false (names.take 1)
        | "-V" :: names => describe true (names.take 1)
        | "-p" :: name :: arguments | "--" :: name :: arguments | name :: arguments =>
          if isBuiltinName name then runBuiltin fuel tested name arguments
          else runProgram fuel none (name :: arguments)
      | "type" => describe true arguments
      | "wait" => named name (await fuel arguments)
      | _ => done 0
/-- Run a program. If it takes the place of a process, that one is given. -/
def runProgram : (fuel : Nat) → (place : Option Nat) → List String → Effect Unit
  | 0, _, _ | _, _, [] => throw .exhausted
  | fuel + 1, place, name :: arguments => do
    let s ← get
    match Program.find s.disk (((s.text? "PATH").getD "").splitOn ":") name with
    | .ok (.known tool, _) =>
      if starterNames.contains tool then runStarter fuel place tool name arguments
      else
        match tool? tool with
        | some act => act name arguments
        | none => done 127
      settleJobs fuel
    | .ok (.script interpreter, path) => runProgram fuel place (interpreter ++ path :: arguments)
    | .ok (.bare, path) => interpret fuel place path (path :: arguments)
    | .error .notFound | .error .notADirectory =>
      fail (name ++ ": " ++ if name = "" then "Permission denied" else "not found") 127
    | .error error =>
      fail (name ++ ": " ++ reasonOf error) (if error = .nameTooLong then 127 else 126)

def runStarter : (fuel : Nat) → (place : Option Nat) → (tool name : String) → List String →
    Effect Unit
  | 0, _, _, _, _ => throw .exhausted
  | fuel + 1, place, tool, name, arguments =>
    if shellNames.contains tool then interpret fuel place name arguments
    else if recordNames.contains tool then
      Record.tool (fun text => interpret fuel none "sh" ["-c", text]) name arguments
    else
      match starter? tool with
      | some act => act (runProgram fuel place) name arguments
      | none => done 127

def interpret : (fuel : Nat) → (place : Option Nat) → (name : String) → List String → Effect Unit
  | 0, _, _, _ => throw .exhausted
  | fuel + 1, place, name, words => do
    let refused (message : String) : Effect Unit := do
      writeLine 2 (name ++ ": 0: " ++ message)
      done 2
    match ShellCall.read name (words.length + 1) [] words with
    | .error message => refused message
    | .ok call =>
      let s ← get
      let text : Except IoError ByteArray ← match call.source with
        | .text text => pure (.ok text.toUTF8)
        | .file path => pure (s.disk.read ⟨path⟩)
        | .input => do pure (.ok (← readRest 0))
      match text with
      | .error .isADirectory => done 0
      | .error error => refused ("cannot open " ++ call.name ++ ": " ++ openReason true error)
      | .ok bytes =>
        let process ← match place with
          | some process => pure process
          | none => newProcess
        let context : Context := {
          name := call.name
          arguments := call.arguments
          process, self := process
          outer := if place.isSome then s.outer else (s.self, s.traps) :: s.outer
          bindings := initialVariables s.toContext s.disk.current
          options := call.options.filter optionLetters.contains
          traps := s.traps.filter (·.2 == "")
          streams := s.streams }
        let signal ← nested context
          (runProcess fuel (runScript fuel false (.ofText 1 (textOfBytes bytes))))
        if let some signal := signal then
          if place.isSome then throw (.killed process signal)
          if signalReport signal ≠ "" then writeLine 2 (signalReport signal)
def runScript : (fuel : Nat) → (tested : Bool) → Script → Effect Unit
  | 0, _, _ => throw .exhausted
  | fuel + 1, tested, script => do
    for line in script.lines do
      if !(← get).has 'n' then run fuel tested line
    if let some (line, fault) := script.fault then
      recast fun c => { c with line }
      abort ("Syntax error: " ++ fault.message)

def runProcess : (fuel : Nat) → Effect Unit → Effect Unit
  | 0, _ => throw .exhausted
  | fuel + 1, act => do
    let streams := (← get).streams
    let stop ← attempt act
    match stop with
    | .error (.killed ..) | .error .outOfTime | .error .exhausted =>
      if let .error stop := stop then throw stop
    | _ =>
      let s ← get
      match s.traps.lookup "EXIT" with
      | none | some "" => return
      | some action =>
        let status := s.status
        recast fun c =>
          { c with
            traps := c.traps.filter (·.1 != "EXIT")
            options := c.options.filter (· != 'e')
            streams := if s.streams.length < streams.length then streams else c.streams }
        match ← attempt (runScript fuel false (.ofText 1 action)) with
        | .ok () => done status
        | .error .exit => return
        | .error stop => throw stop

def runTraps : (fuel : Nat) → Effect Unit
  | 0 => throw .exhausted
  | fuel + 1 => do
    let s ← get
    if s.raised.isEmpty then return
    match s.raised.find? fun (process, _) => process == s.self with
    | none => return
    | some (process, name) =>
      modify fun s => { s with raised := s.raised.erase (process, name) }
      match s.traps.lookup name with
      | none | some "" => return
      | some action =>
        runScript fuel false (.ofText 1 action)
        done s.status
      runTraps fuel

/-- Run the members of a pipeline. Each begins at the same time. -/
def runPipeline : (fuel : Nat) → (tested : Bool) → List Instruction → Effect Unit
  | 0, _, _ => throw .exhausted
  | fuel + 1, tested, members => do
    let s ← get
    let member (body : Instruction) : Effect Unit := do
      let process ← newProcess
      let c := (← get).toContext.forSubshell process
      let _ ← nested c (runProcess fuel (run fuel tested body))
    let mut ends := s.clock
    for (body, n) in members.zipIdx do
      modify fun t => { t with clock := s.clock }
      if n + 1 < members.length then
        let bytes ← capturing (member body)
        let number ← openChannel { medium := .memory bytes }
        connect 0 number
      else keepStreams s.streams (member body)
      ends := max ends (← get).clock
    waitUntil ends

def startJob : (fuel : Nat) → Instruction → Effect Unit
  | 0, _ => throw .exhausted
  | fuel + 1, body => do
    let process ← newProcess
    let s ← get
    let nothing ← openChannel { medium := .nowhere }
    let context := { s.toContext.forSubshell process with
      streams := (0, nothing) :: s.streams.filter (·.1 != 0) }
    let number := freeJobNumber s
    let job : Job := {
      process, parent := s.self, number, begins := s.clock
      context, place := s.disk.current, steps := body.steps }
    let replaced (other : Job) : Bool := other.parent == s.self && other.number == number
    modify fun t => { t with jobs := t.jobs.filter (!replaced ·) ++ [job] }
    recast fun c => { c with lastJob := some process }
    advanceJob fuel job
    done 0

/-- Do the steps of a job that take no time, and find out when the next one ends. -/
def advanceJob : (fuel : Nat) → Job → Effect Unit
  | 0, _ => throw .exhausted
  | fuel + 1, job => do
    let s ← get
    let store (job : Job) : Effect Unit := modify fun t =>
      { t with jobs := t.jobs.map fun other => if other.process = job.process then job else other }
    match job.steps with
    | [] => store { job with status := some job.context.status }
    | step :: rest =>
      store { job with ends := none }
      let start : Session := {
        toContext := job.context
        toMachine := { (← get).toMachine with
          disk := { s.disk with current := job.place }, clock := job.begins, limit := none } }
      let tail := if rest.isEmpty then runProcess fuel (run fuel false step)
        else run fuel false step
      let (r, t) := tail start
      let never := match r with
        | .error .outOfTime | .error .exhausted => true
        | _ => false
      if never then store { job with ends := none }
      else if s.clock < t.clock then store { job with ends := some t.clock }
      else
        let context := t.toContext
        let place := t.disk.current
        modify fun u => { u with
          toMachine := { t.toMachine with
            disk := { t.disk with current := u.disk.current }
            clock := s.clock, limit := s.limit } }
        match r with
        | .error (.killed process signal) =>
          if process = job.process then
            store { job with status := some (128 + signal).toUInt8, steps := [] }
          else
            store { job with status := some 0, steps := [] }
            throw (.killed process signal)
        | .error _ => store { job with status := some context.status, steps := [] }
        | .ok () =>
          let job := { job with steps := rest, context, place, begins := t.clock }
          store job
          advanceJob fuel job

def settleJobs : (fuel : Nat) → Effect Unit
  | 0 => throw .exhausted
  | fuel + 1 => do
    let s ← get
    let due := s.jobs.filter fun job => job.status.isNone && job.ends.any (· ≤ s.clock)
    let first := due.foldl (fun (best : Option Job) job =>
      match best with
      | some b => if b.ends.getD 0 ≤ job.ends.getD 0 then some b else some job
      | none => some job) none
    match first with
    | none => return
    | some job =>
      advanceJob fuel job
      settleJobs fuel

def await : (fuel : Nat) → List String → Effect Unit
  | 0, _ => throw .exhausted
  | fuel + 1, words => do
    match words with
    | [] =>
      awaitJobs fuel fun s => s.jobs.filter (·.parent == s.self)
      modify fun t => { t with jobs := t.jobs.map (Job.collect (·.parent == t.self)) }
      done 0
    | words =>
      for word in words do
        let s ← get
        let job := if word.startsWith "%" then jobOf? s word
          else s.jobs.find? fun job =>
            some job.process == word.toNat? && job.parent == s.self
        match job with
        | some job =>
          awaitJobs fuel fun s => s.jobs.filter (·.process == job.process)
          modify fun t =>
            { t with jobs := t.jobs.map (Job.collect (·.process == job.process)) }
          let ended := (← get).jobs.find? (·.process == job.process)
          let status := (ended.bind Job.status).getD 0
          if 128 < status then
            let report := signalReport (status.toNat - 128)
            if report ≠ "" then writeLine 2 report
          done status
        | none =>
          if word.startsWith "%" then fail ("No such job: " ++ word) 2
          else if word ≠ "" && word.toList.all Char.isDigit then done 127
          else fail ("Illegal number: " ++ word) 2

/-- Let time pass until jobs have ended. -/
def awaitJobs : (fuel : Nat) → (Session → List Job) → Effect Unit
  | 0, _ => throw .exhausted
  | fuel + 1, wanted => do
    settleJobs fuel
    let s ← get
    if (wanted s).all (·.status.isSome) then return
    let moments := (s.jobs.filter (·.status.isNone)).filterMap Job.ends
    match moments.min? with
    | none =>
      match s.limit with
      | some limit => waitUntil limit
      | none => throw .exhausted
    | some moment =>
      waitUntil moment
      awaitJobs fuel wanted

end

end RackTraffic.Shell
