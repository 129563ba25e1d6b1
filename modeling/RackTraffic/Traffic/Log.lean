import RackTraffic.Text.Lines
import RackTraffic.Traffic.Line

/-!
# Logs

A flow log holds the flows of one *scenario*. An allocation log holds one *variant* of it: the same
flows, each with a link. As text a log has one record a line, and every line ends in a line feed.

A log is read line by line. Blank lines are skipped but counted, and the first line that is
malformed is reported with its number. So the records of a text depend on its written lines alone.
-/

namespace RackTraffic

open Text

structure ScenarioId where
  number : UInt64
  deriving DecidableEq, Repr, Inhabited

structure VariantId where
  number : UInt64
  deriving DecidableEq, Repr, Inhabited

/-- The flows of a scenario. -/
structure FlowLog where
  scenario : ScenarioId
  flows : List Flow
  deriving DecidableEq, Repr

/-- The flows of a scenario with their links. -/
structure AllocationLog where
  scenario : ScenarioId
  variant : VariantId
  flows : List AllocatedFlow
  deriving DecidableEq, Repr

/-- Read numbered lines in order, up to the first that is malformed. -/
def readLines {α : Type} (read : List Char → Except Malformed α) :
    List (List Char × Nat) → Except Malformed (List α)
  | [] => .ok []
  | (line, number) :: rest => do
    let record ← (read line).mapError (.atLine number)
    let records ← readLines read rest
    return record :: records

def readRecords {α : Type} (read : List Char → Except Malformed α) (text : String) :
    Except Malformed (List α) :=
  readLines read (writtenLines text.toList)

def FlowLog.ofText (scenario : ScenarioId) (text : String) : Except Malformed FlowLog := do
  let flows ← readRecords Flow.ofLine text
  return { scenario, flows }

def FlowLog.text (log : FlowLog) : String := String.ofList (ofLines (log.flows.map Flow.line))

def AllocationLog.ofText (scenario : ScenarioId) (variant : VariantId) (text : String) :
    Except Malformed AllocationLog := do
  let flows ← readRecords AllocatedFlow.ofLine text
  return { scenario, variant, flows }

def AllocationLog.text (log : AllocationLog) : String :=
  String.ofList (ofLines (log.flows.map AllocatedFlow.line))

def AllocationLog.wirelessCount (log : AllocationLog) : Nat :=
  log.flows.countP fun allocated => allocated.link.isWireless

end RackTraffic
