import RackTraffic.CommandLine.Invocation
import RackTraffic.CommandLine.Report
import RackTraffic.Draw.SplitMix
import RackTraffic.Matrix.Batch
import RackTraffic.Result.Best
import RackTraffic.Simulation.Batch

/-!
# Executing commands

A command works on a terminal: the disk, the text that the user has typed, and what has been printed
so far. It may fail, and what it has printed and done until then stays.

Nothing that exists is written into without consent, which is given by a flag or by the answer to a
question. The question is asked before the disk is changed at all. What is not there needs no
consent.
-/

namespace RackTraffic.CommandLine

structure Terminal where
  disk : Disk
  typed : String
  printed : String := ""

abbrev Interaction (α : Type) := ExceptT CommandFault (StateM Terminal) α

namespace Interaction

variable {ε α : Type}

def print (text : String) : Interaction Unit :=
  modify fun t => { t with printed := t.printed ++ text }

def printLine (line : String) : Interaction Unit := print (line ++ "\n")

def look (fault : ε → CommandFault) (f : Disk → Except ε α) : Interaction α := do
  match f (← get).disk with
  | .ok a => return a
  | .error e => throw (fault e)

def act (fault : ε → CommandFault) (action : DiskAction ε α) : Interaction α := do
  let (r, disk) := action (← get).disk
  modify fun t => { t with disk }
  match r with
  | .ok a => return a
  | .error e => throw (fault e)

/-! ## Consent -/

def consents (typed : String) : Bool :=
  let answer := Text.trim (typed.toList.takeWhile (· != '\n'))
  ["y", "Y", "yes"].any fun yes => yes.toList == answer

/-- Make sure that a directory may be written into, and return whether that was said. -/
def confirm (directory : Path) (consent : Bool) : Interaction Bool := do
  if consent || !(← get).disk.contains directory then return consent
  print (directory.text ++ " already exists. Overwrite? [y/n] ")
  if !consents (← get).typed then throw (.refused directory)
  return true

/-! ## Commands -/

/-- Draw a batch of scenarios from a seed. -/
def generate (directory : Path) (shape : BatchShape) (seed : UInt64) (consent : Bool) :
    Interaction Unit := do
  let allowExisting ← confirm directory consent
  match shape.write directory allowExisting (KeyStream.ofSeed seed, (← get).disk) with
  | none => throw .beyondLimits
  | some (r, _, disk) =>
    modify fun t => { t with disk }
    match r with
    | .ok _ => return
    | .error fault => throw (.batch fault)

/-- The settings of a run: flags over a file. -/
def settingsOf (flags : RunSettings) : Option Path → Interaction RunSettings
  | none => return flags
  | some path => return flags.or (← look .settings (·.readSettings path))

/-- Simulate every pair of a directory. -/
def run (host : Host) (logs results : Path) (settingsFile : Option Path) (flags : RunSettings)
    (consent : Bool) : Interaction Unit := do
  let settings ← settingsOf flags settingsFile
  let program ← look .settings fun _ => settings.simulatorProgram
  let allowExisting ← confirm results consent
  let batch ← act .work (runAll (program.simulate host) logs results allowExisting)
  for (id, fault) in batch.failed do
    printLine (String.ofList id.text ++ " failed: " ++ ": ".intercalate fault.reasons)
  printLine (s!"{batch.succeeded.length} succeeded, {batch.failed.length} failed, " ++
    s!"{batch.skipped.length} scenarios skipped")

def ofTensorFault : TensorFault → CommandFault
  | .tooLarge => .beyondLimits
  | .work fault => .work fault

def shapeText (shape : List Nat) : String := "[" ++ ", ".intercalate (shape.map toString) ++ "]"

def writeTensors (batch : TensorBatch) (directory : Path) : Interaction Unit := do
  let write (name : String) (v : JsonValue) : Interaction Unit :=
    act .io (Disk.writeAtomic (directory.join name) v.compactText)
  write "xs.json" batch.tensors.inputs.toJson
  write "ys.json" batch.tensors.labels.toJson
  write "ids.json" (.array (batch.ids.map PairId.toJson))

/-- Turn the allocation logs of a directory into tensors. -/
def parse (logs : Path) (rackCount : UInt64) (directory : Option Path) (consent : Bool) :
    Interaction Unit := do
  let batch ← look ofTensorFault (·.tensorBatch logs rackCount)
  printLine ("xs: " ++ shapeText batch.tensors.inputs.shape ++ ", ys: " ++
    shapeText batch.tensors.labels.shape ++ s!", {batch.ids.length} allocations")
  match directory with
  | none => return
  | some directory =>
    let allowExisting ← confirm directory consent
    act .output (Disk.prepareOutput directory allowExisting)
    writeTensors batch directory

def bestLine (best : ScenarioBest) : String :=
  s!"scenario {best.scenario.number}: variant {best.variant.number} (" ++
    Decimal.plain best.throughput ++
    s!" average throughput over {best.variantCount} variants)"

/-- Report the best variants of a directory of results. -/
def best (results : Path) (scenario : Option ScenarioId) (json : Bool) : Interaction Unit := do
  let bests ← look .work (·.summarize results)
  let bests ← match scenario with
    | none => pure bests
    | some s =>
      let bests := bests.filter fun best => best.scenario = s
      if bests.isEmpty then throw (.noResults s results)
      pure bests
  if json then printLine (JsonValue.array (bests.map ScenarioBest.toJson)).indentedText
  else for best in bests do printLine (bestLine best)

def ofDiagramFault : DiagramFault → CommandFault
  | .beyondLimits => .beyondLimits
  | fault => .diagram fault

/-- Draw an allocation as a diagram. -/
def render (log : Path) (rackCount : UInt64) (output : Path) (layout : Layout) :
    Interaction Unit := do
  let log ← look .log (·.readAllocationLog log)
  act ofDiagramFault (log.draw rackCount layout output)

end Interaction

/-- Execute a command on a host. A batch without a seed of its own is drawn from `seed`. -/
def Invocation.execute (host : Host) (seed : UInt64) : Invocation → Interaction Unit
  | .generate directory shape own consent =>
    Interaction.generate directory shape (own.getD seed) consent
  | .run logs results settingsFile flags consent =>
    Interaction.run host logs results settingsFile flags consent
  | .parse logs rackCount directory consent => Interaction.parse logs rackCount directory consent
  | .best results scenario json => Interaction.best results scenario json
  | .render log rackCount output layout => Interaction.render log rackCount output layout

/-! ## The program -/

structure Outcome where
  code : UInt8
  output : String
  error : String
  deriving DecidableEq, Repr

def CommandFault.code : CommandFault → UInt8
  | .beyondLimits => 101
  | _ => 1

/-- Execute the command that arguments stand for. Arguments that stand for none do nothing. -/
def execute (host : Host) (seed : UInt64) (arguments : List String) (typed : String) (disk : Disk) :
    Outcome × Disk :=
  match Invocation.ofArguments? arguments with
  | none => (⟨2, "", ""⟩, disk)
  | some invocation =>
    match invocation.execute host seed { disk, typed } with
    | (.ok (), t) => (⟨0, t.printed, ""⟩, t.disk)
    | (.error fault, t) => (⟨fault.code, t.printed, report fault.reasons⟩, t.disk)

/-- Whether a command ends because the user has typed nothing where an answer is wanted. -/
def awaitsAnswer (host : Host) (seed : UInt64) (arguments : List String) (disk : Disk) : Bool :=
  match Invocation.ofArguments? arguments with
  | none => false
  | some invocation =>
    match (invocation.execute host seed { disk, typed := "" }).1 with
    | .error (.refused _) => true
    | _ => false

end RackTraffic.CommandLine
