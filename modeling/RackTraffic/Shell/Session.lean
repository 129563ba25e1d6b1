import RackTraffic.Disk.Output
import RackTraffic.Shell.Script

/-!
# Sessions of the shell

A session is what a running script can see and change. One part of it is the *machine*, which all
scripts share: the disk, the channels that are open, the jobs in the background, and the time that
has passed. Time passes only where a command sleeps. The other part is the *context* of the script
itself: its variables, arguments, functions and streams. A script inside another one starts with a
context of its own and leaves the machine to the outer one.

A stream is a number for a *channel*. Streams may share a channel and then share its place in the
file, too.

Only the machine for scripts (`Shell.host`) needs this module, and only `Main` and test runs need
the machine; no result is about it.
-/

namespace RackTraffic.Shell

/-! ## Channels -/

/-- Where the bytes of a channel are. -/
inductive Medium where
  | file (place : Place)
  | memory (contents : ByteArray)
  | nowhere

/-- Something to read from or to write to, from a place in it on. -/
structure Channel where
  medium : Medium
  offset : Nat := 0
  appends : Bool := false

/-- Bytes with others written over them. A gap is filled with zeros. -/
def overwrite (contents : ByteArray) (offset : Nat) (bytes : ByteArray) : ByteArray :=
  if offset = contents.size then contents ++ bytes
  else
    let gap := ByteArray.mk (Array.replicate (offset - contents.size) 0)
    (contents.extract 0 offset ++ gap) ++ bytes ++
      contents.extract (offset + bytes.size) contents.size

/-- The bytes of a channel. A file that has been removed has none. -/
def Channel.contents (channel : Channel) (d : Disk) : ByteArray :=
  match channel.medium with
  | .nowhere => .empty
  | .memory contents => contents
  | .file place =>
    match d.at? place with
    | some (.file contents _) => contents
    | _ => .empty

/-- Write to a channel. What is written to a file that has been removed is lost. -/
def Channel.write (channel : Channel) (d : Disk) (bytes : ByteArray) : Channel × Disk :=
  match channel.medium with
  | .nowhere => (channel, d)
  | .memory contents =>
    ({ channel with
      medium := .memory (overwrite contents channel.offset bytes)
      offset := channel.offset + bytes.size }, d)
  | .file place =>
    match d.at? place with
    | some (.file contents executable) =>
      let offset := if channel.appends then contents.size else channel.offset
      ({ channel with offset := offset + bytes.size },
        d.put place (.file (overwrite contents offset bytes) executable))
    | _ => (channel, d)

/-! ## Contexts -/

/-- A variable. It may exist without a value. -/
structure Variable where
  value : Option String := none
  exported : Bool := false
  fixed : Bool := false
  deriving DecidableEq, Repr

/-- What a script does when something happens to it, by the name of what happens. To do nothing is
to ignore it. -/
abbrev Traps := List (String × String)

/-- What a script has of its own. -/
structure Context where
  name : String
  arguments : List String := []
  process : Nat
  /-- The number of the process that runs this part of the script. -/
  self : Nat
  /-- The processes that wait for this one, and their traps. -/
  outer : List (Nat × Traps) := []
  line : Nat := 0
  command : Option String := none
  bindings : List (String × Variable) := []
  functions : List (String × Instruction) := []
  /-- For each function that is running, what its own variables were before. -/
  shadowed : List (List (String × Option Variable)) := []
  loops : Nat := 0
  options : List Char := []
  traps : Traps := []
  streams : List (Nat × Nat)
  status : UInt8 := 0
  /-- The status of the last embedded command of the command that is running. -/
  substitution : Option UInt8 := none
  lastJob : Option Nat := none
  /-- How much has been read of the argument with the next options. -/
  optionOffset : Nat := 0

/-- Something that runs in the background. It is done step by step, each step as a whole at the
moment when it ends. -/
structure Job where
  process : Nat
  parent : Nat
  number : Nat
  collected : Bool := false
  status : Option UInt8 := none
  /-- When the next step begins. -/
  begins : Nat
  /-- When the next step ends, if it ever does. -/
  ends : Option Nat := none
  context : Context
  place : Place
  steps : List Instruction

def Job.collect (meant : Job → Bool) (job : Job) : Job :=
  if meant job then { job with collected := true } else job

/-- What all scripts share. -/
structure Machine where
  disk : Disk
  channels : Array Channel
  clock : Nat := 0
  limit : Option Nat
  jobs : List Job := []
  processes : Nat
  /-- Signals that have reached a process and wait for it to act. -/
  raised : List (Nat × String) := []

/-- The state of a running script. -/
structure Session extends Context, Machine

/-- Why a script, or a part of it, stops. -/
inductive Stop where
  | exit
  | finish
  /-- A number of loops end. -/
  | leave (loops : Nat)
  /-- All but one of a number of loops end and the last one goes on. -/
  | again (loops : Nat)
  | killed (process signal : Nat)
  | outOfTime
  | exhausted
  deriving DecidableEq, Repr

abbrev Effect := ExceptT Stop (StateM Session)

/-! ## Variables -/

namespace Context

def binding? (c : Context) (name : String) : Option Variable := c.bindings.lookup name

def setVariable (c : Context) (name : String) (v : Option Variable) : Context :=
  let others := c.bindings.filter (·.1 != name)
  { c with bindings := v.elim others fun v => (name, v) :: others }

/-- The text of a variable; nothing if it has none. -/
def text? (c : Context) (name : String) : Option String := (c.binding? name).bind Variable.value

def has (c : Context) (option : Char) : Bool := c.options.contains option

def separators (c : Context) : List Char := ((c.text? "IFS").getD " \t\n").toList

def environment (c : Context) : List (String × Variable) :=
  c.bindings.filter fun (_, v) => v.exported && v.value.isSome

end Context

/-! ## Actions -/

namespace Effect

def done (status : UInt8) : Effect Unit := modify fun s => { s with status }

def recast (f : Context → Context) : Effect Unit :=
  modify fun s => { s with toContext := f s.toContext }

def waitUntil (moment : Nat) : Effect Unit := do
  match (← get).limit with
  | some limit => if limit ≤ moment then throw .outOfTime
  | none => pure ()
  modify fun s => { s with clock := max s.clock moment }

def change {α : Type} (act : DiskAction IoError α) : Effect (Except IoError α) := do
  let (r, disk) := act (← get).disk
  modify fun s => { s with disk }
  return r

/-! ### Channels -/

def openChannel (channel : Channel) : Effect Nat := do
  let number := (← get).channels.size
  modify fun s => { s with channels := s.channels.push channel }
  return number

def channel? (stream : Nat) : Effect (Option (Nat × Channel)) := do
  let s ← get
  return (s.streams.lookup stream).bind fun number => s.channels[number]?.map (number, ·)

def tryWrite (stream : Nat) (bytes : ByteArray) : Effect Bool := do
  match ← channel? stream with
  | none => return false
  | some (number, channel) =>
    modify fun s =>
      let (channel, disk) := channel.write s.disk bytes
      { s with disk, channels := s.channels.setIfInBounds number channel }
    return true

def write (stream : Nat) (bytes : ByteArray) : Effect Unit := do
  let _ ← tryWrite stream bytes

def writeLine (stream : Nat) (line : String) : Effect Unit := write stream (line ++ "\n").toUTF8

def peek (stream : Nat) : Effect ByteArray := do
  match ← channel? stream with
  | none => return .empty
  | some (_, channel) =>
    let contents := channel.contents (← get).disk
    return contents.extract channel.offset contents.size

def skip (stream count : Nat) : Effect Unit := do
  if let some (number, channel) ← channel? stream then
    let channel := { channel with offset := channel.offset + count }
    modify fun s => { s with channels := s.channels.setIfInBounds number channel }

def readRest (stream : Nat) : Effect ByteArray := do
  let bytes ← peek stream
  skip stream bytes.size
  return bytes

def connect (stream number : Nat) : Effect Unit :=
  recast fun c =>
    { c with streams := (stream, number) :: c.streams.filter (·.1 != stream) }

def disconnect (stream : Nat) : Effect Unit :=
  recast fun c => { c with streams := c.streams.filter (·.1 != stream) }

/-! ### Failures -/

def complain (message : String) : Effect Unit := do
  let s ← get
  let command := s.command.elim "" (· ++ ": ")
  writeLine 2 s!"{s.name}: {s.line}: {command}{message}"

def fail (message : String) (status : UInt8) : Effect Unit := do
  complain message
  done status

def abort {α : Type} (message : String) : Effect α := do
  fail message 2
  throw .exit

def assign (name value : String) : Effect Unit := do
  let c := (← get).toContext
  let v := (c.binding? name).getD {}
  if v.fixed then abort (name ++ ": is read only")
  recast fun c =>
    c.setVariable name (some { v with value, exported := v.exported || c.has 'a' })

/-! ### Parts of scripts -/

def attempt (act : Effect Unit) : Effect (Except Stop Unit) := fun s =>
  let (r, t) := act s
  (.ok r, t)

def afterwards (act : Effect Unit) (restore : Context → Context) : Effect Unit := do
  let r ← attempt act
  recast restore
  match r with
  | .ok () => return
  | .error stop => throw stop

/-- Run an action in a context of its own. The machine and the status stay as the action leaves
them. An exit, or a signal to the process of its own, ends only the action; the signal is given
back. -/
def nested (context : Context) (act : Effect Unit) : Effect (Option Nat) := fun s =>
  let (r, t) := act { toContext := context, toMachine := s.toMachine }
  let after (status : UInt8) : Session :=
    { toContext := { s.toContext with status }
      toMachine := { t.toMachine with disk := { t.disk with current := s.disk.current } } }
  match r with
  | .error (.killed process signal) =>
    if process = context.self then (.ok (some signal), after (128 + signal).toUInt8)
    else (.error (.killed process signal), after t.status)
  | .error .outOfTime => (.error .outOfTime, after t.status)
  | .error .exhausted => (.error .exhausted, after t.status)
  | _ => (.ok none, after t.status)

def capturing (act : Effect Unit) : Effect ByteArray := do
  let number ← openChannel { medium := .memory .empty }
  let streams := (← get).streams
  connect 1 number
  act
  recast fun c => { c with streams }
  match (← get).channels[number]? with
  | some { medium := .memory contents, .. } => return contents
  | _ => return .empty

end Effect

/-! ## Parameters -/

namespace Session

/-- The value of a parameter, unless it has none. The parameters for all arguments have one if there
are any. -/
def value? (s : Session) (name : String) : Option String :=
  let joined := (s.separators.head?.map Char.toString).getD ""
  match name with
  | "@" | "*" => if s.arguments.isEmpty then none else joined.intercalate s.arguments
  | "#" => toString s.arguments.length
  | "?" => toString s.status
  | "$" => toString s.process
  | "!" => s.lastJob.map toString
  | "-" => String.ofList s.options
  | "0" => s.name
  | _ =>
    if name.toList.all Char.isDigit then s.arguments[name.toNat?.getD 0 - 1]?
    else s.text? name

end Session

end RackTraffic.Shell
