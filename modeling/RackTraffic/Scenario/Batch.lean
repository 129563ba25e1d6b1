import RackTraffic.Scenario.Drawing
import RackTraffic.Traffic.Storage

/-!
# Batches of scenarios

A batch is a number of scenarios and variants of each, drawn one after the other from one source and
written as they are drawn. Each scenario is followed by its variants.

Everything that a shape can ask for too much of is checked first, then the output directory. So a
refused batch has drawn nothing and left the disk alone.
-/

namespace RackTraffic

inductive BatchFault where
  | refused (fault : SampleFault)
  | badFlow (fault : FlowFault)
  | output (fault : OutputFault)
  | io (error : IoError)
  deriving DecidableEq, Repr

def BatchFault.ofDrawFault : DrawFault → BatchFault
  | .refused fault => .refused fault
  | .badFlow fault => .badFlow fault

/-- How much a batch has written. -/
structure BatchSummary where
  flowLogs : Nat := 0
  allocationLogs : Nat := 0
  flows : Nat := 0
  deriving DecidableEq, Repr

/-- A computation that draws from a source and writes to a disk. -/
abbrev Batch (σ α : Type) := ExceptT BatchFault (StateT (σ × Disk) Option) α

variable {σ : Type}

namespace Batch

def draw {α : Type} (act : Drawing σ α) : Batch σ α := fun (s, d) =>
  (act s).map fun (r, s) => (r.mapError .ofDrawFault, (s, d))

def onDisk {ε α : Type} (fault : ε → BatchFault) (act : DiskAction ε α) : Batch σ α := fun (s, d) =>
  let (r, d) := act d
  some (r.mapError fault, (s, d))

end Batch

variable [WordSource σ]

/-- Draw and write `count` variants of a scenario, of which `first` is the first. -/
def FlowLog.writeVariants (log : FlowLog) (directory : Path) (wirelessCount : UInt64) :
    (count first : Nat) → Batch σ Unit
  | 0, _ => pure ()
  | count + 1, first => do
    let variant ← Batch.draw (log.drawVariant ⟨UInt64.ofNat first⟩ wirelessCount)
    let _ ← Batch.onDisk .io (variant.store directory)
    writeVariants log directory wirelessCount count (first + 1)

/-- Draw and write a scenario and its variants, and return how many flows it has. -/
def BatchShape.writeScenario (shape : BatchShape) (directory : Path) (number : Nat) :
    Batch σ Nat := do
  let log ← Batch.draw (shape.scenario.draw ⟨UInt64.ofNat number⟩)
  let _ ← Batch.onDisk .io (log.store directory)
  log.writeVariants directory shape.wirelessCount shape.variantsPerScenario.toNat 0
  return log.flows.length

def BatchShape.writeScenarios (shape : BatchShape) (directory : Path) :
    (count first : Nat) → BatchSummary → Batch σ BatchSummary
  | 0, _, summary => pure summary
  | count + 1, first, summary => do
    let flows ← shape.writeScenario directory first
    writeScenarios shape directory count (first + 1) {
      flowLogs := summary.flowLogs + 1
      allocationLogs := summary.allocationLogs + shape.variantsPerScenario.toNat
      flows := summary.flows + flows }

/-- Draw a batch and write it into a directory. -/
def BatchShape.write (shape : BatchShape) (directory : Path) (allowExisting : Bool) :
    Batch σ BatchSummary := do
  (shape.check.mapError .refused : Except BatchFault Unit)
  Batch.onDisk .output (Disk.prepareOutput directory allowExisting)
  shape.writeScenarios directory shape.scenarioCount.toNat 0 {}

end RackTraffic
