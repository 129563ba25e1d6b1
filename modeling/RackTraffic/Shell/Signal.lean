import RackTraffic.Shell.Session

/-!
# Signals

A signal is sent to a process by its number. A script may have a trap for it, which is then carried
out when the running command has ended; a script may also ignore it. Otherwise most signals end the
process.

Only the machine for scripts (`Shell.host`) needs this module, and only `Main` and test runs need
the machine; no result is about it.
-/

namespace RackTraffic.Shell

open Effect

def signalNames : List (String × String) :=
  [ ("HUP", "Hangup"), ("INT", ""), ("QUIT", "Quit"), ("ILL", "Illegal instruction"),
    ("TRAP", "Trace/breakpoint trap"), ("ABRT", "Aborted"), ("BUS", "Bus error"),
    ("FPE", "Floating point exception"), ("KILL", "Killed"), ("USR1", "User defined signal 1"),
    ("SEGV", "Segmentation fault"), ("USR2", "User defined signal 2"), ("PIPE", ""),
    ("ALRM", "Alarm clock"), ("TERM", "Terminated"), ("STKFLT", "Stack fault"), ("CHLD", ""),
    ("CONT", ""), ("STOP", ""), ("TSTP", ""), ("TTIN", ""), ("TTOU", ""), ("URG", ""),
    ("XCPU", "CPU time limit exceeded"), ("XFSZ", "File size limit exceeded"),
    ("VTALRM", "Virtual timer expired"), ("PROF", "Profiling timer expired"), ("WINCH", ""),
    ("POLL", "I/O possible"), ("PWR", "Power failure"), ("SYS", "Bad system call") ]

def signalName (number : Nat) : String := ((signalNames[number - 1]?).map Prod.fst).getD ""

def signalReport (number : Nat) : String := ((signalNames[number - 1]?).map Prod.snd).getD ""

/-- The number of a signal that a word stands for; 0 is no signal. -/
def signalNumber? (word : String) : Option Nat :=
  match word.toNat? with
  | some n => if n ≤ 64 then some n else none
  | none =>
    let name := word.toUpper
    if name = "EXIT" then some 0 else (signalNames.findIdx? (·.1 == name)).map (· + 1)

/-- What a trap is for, by its name: a signal or the end of the script. -/
def trapName? (word : String) : Option String :=
  match signalNumber? word with
  | some 0 => some "EXIT"
  | some n => if signalName n = "" then none else some (signalName n)
  | none => none

def jobOf? (s : Session) (word : String) : Option Job :=
  let own := s.jobs.filter (·.parent == s.self)
  match (word.drop 1).toString.toNat? with
  | some n => own.find? (·.number == n)
  | none => own.getLast?

def freeJobNumber (s : Session) : Nat :=
  let taken := (s.jobs.filter fun job =>
    job.parent == s.self && !(job.collected && job.status.isSome)).map Job.number
  ((List.range' 1 (taken.length + 1)).find? (!taken.contains ·)).getD 1

def strike (process : Nat) (traps : Traps) (signal : Nat) : Effect Unit := do
  let name := signalName signal
  if signal = 0 then return
  if name = "KILL" then throw (.killed process signal)
  match traps.lookup name with
  | some "" => return
  | some _ => modify fun s => { s with raised := s.raised ++ [(process, name)] }
  | none =>
    if ["CHLD", "CONT", "URG", "WINCH"].contains name then return
    throw (.killed process signal)

def sendSignal (signal process : Nat) : Effect Bool := do
  let s ← get
  match ((s.self, s.traps) :: s.outer).find? (·.1 == process) with
  | some (_, traps) =>
    strike process traps signal
    return true
  | none =>
    match s.jobs.find? (·.process == process) with
    | some { status := none, .. } =>
      if signal ≠ 0 then
        modify fun s =>
          { s with
            jobs := s.jobs.map fun job =>
              if job.process = process then
                { job with status := some (128 + signal).toUInt8, steps := [] }
              else job }
      return true
    | _ => return false

def sendToAll (signal : Nat) : Effect Unit := do
  let s ← get
  for job in s.jobs do
    let _ ← sendSignal signal job.process
  for (process, traps) in (s.outer ++ [(s.self, s.traps)]).reverse do
    strike process traps signal

end RackTraffic.Shell
