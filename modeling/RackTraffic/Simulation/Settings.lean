import RackTraffic.Json.Record
import RackTraffic.Simulation.Launch

/-!
# Run settings

What a batch of simulations needs to know comes from several places: from flags, from a file, and
from defaults. Settings leave every value open, and settings can be *layered*: each value is the
first one that is set. A simulator program can be made of settings that say at least where the
source tree and the topology are.

A settings file is a JSON record in which every field may be left out or `null`. A member that is no
field is refused, since it is most likely a misspelt one.
-/

namespace RackTraffic

/-- Settings, any of which may be left open. -/
structure RunSettings where
  home : Option Path := none
  topology : Option Path := none
  program : Option String := none
  gain : Option Float := none
  timeLimit : Option UInt64 := none
  workers : Option UInt64 := none
  launcher : Option Launcher := none

inductive RequiredSetting where
  | home
  | topology
  deriving DecidableEq, Repr

def RequiredSetting.name : RequiredSetting → String
  | .home => "ns3_dir"
  | .topology => "topology"

inductive SettingsFault where
  | unknownFileType (path : Path)
  /-- A setting without a default is set nowhere. -/
  | missing (setting : RequiredSetting)
  | malformed (fault : Json.Fault)
  | io (error : IoError)
  deriving DecidableEq, Repr

def SettingsFault.message : SettingsFault → String
  | .unknownFileType path => "unknown file type: " ++ path.text
  | .missing setting => "missing setting `" ++ setting.name ++ "`"
  | .malformed _ => "JSON error"
  | .io _ => "IO error"

namespace RunSettings

/-- Fill what is open in the first settings from the second. -/
def or (first second : RunSettings) : RunSettings where
  home := first.home.or second.home
  topology := first.topology.or second.topology
  program := first.program.or second.program
  gain := first.gain.or second.gain
  timeLimit := first.timeLimit.or second.timeLimit
  workers := first.workers.or second.workers
  launcher := first.launcher.or second.launcher

/-! ## The simulator program -/

def defaultProgram : String := "flyway-data"

def defaultGain : Float := 25.0

/-- The value of a setting that has no default. -/
def require {α : Type} (setting : RequiredSetting) : Option α → Except SettingsFault α
  | none => .error (.missing setting)
  | some a => .ok a

def simulatorProgram (s : RunSettings) : Except SettingsFault SimulatorProgram := do
  let home ← require .home s.home
  let topology ← require .topology s.topology
  return {
    home
    topology
    program := s.program.getD defaultProgram
    gain := s.gain.getD defaultGain
    timeLimit := s.timeLimit.map fun seconds => .ofSeconds seconds.toNat
    launcher := s.launcher.getD .buildScript }

/-! ## Reading -/

open Json (RecordField)
open Json.Scan (float nullable text unsigned variant)

def fields : List (RecordField RunSettings) := [
  ⟨"ns3_dir", fun s => return { s with home := (← nullable (text .path)).map Path.mk }⟩,
  ⟨"topology", fun s => return { s with topology := (← nullable (text .path)).map Path.mk }⟩,
  ⟨"program", fun s => return { s with program := ← nullable (text .string) }⟩,
  ⟨"gain", fun s => return { s with gain := ← nullable float }⟩,
  ⟨"timeout_secs", fun s => return { s with timeLimit := ← nullable (unsigned .word) }⟩,
  ⟨"jobs", fun s => return { s with workers := ← nullable (unsigned .count) }⟩,
  ⟨"launcher", fun s => return { s with launcher := ← nullable (variant launchers) }⟩]
where
  /-- What settings files call the launchers. -/
  launchers : List (String × Launcher) := [("waf", .buildScript), ("direct", .direct)]

def ofText (text : String) : Except Json.Fault RunSettings :=
  (Json.Scan.record "RunConfig" fields {}).run text

end RunSettings

/-- Read settings from a file, whose name must end in `.json`. -/
def Disk.readSettings (d : Disk) (path : Path) : Except SettingsFault RunSettings := do
  if path.extension? ≠ some "json" then throw (.unknownFileType path)
  let text ← (d.readText path).mapError .io
  (RunSettings.ofText text).mapError .malformed

end RackTraffic
