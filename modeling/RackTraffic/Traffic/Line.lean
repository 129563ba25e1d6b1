import RackTraffic.Text.Blank
import RackTraffic.Traffic.Malformed

/-!
# Log lines

A flow is written as six fields with one space between any two, as in `0 8 6 Tcp 100000000 1Gbps`:
time step, source, destination, label, size and rate. An allocated flow has a seventh field, the
code of its link.

Reading drops blanks at the end of the line and splits the rest at every space. A line of an
allocation log must have seven fields. A flow is read from the first six of at least six, so that
the flows of an allocation log can be read as they stand. The number of fields is checked first;
then the fields are read from left to right, and the first that is wrong is reported.

A label may hold anything except a space, because its field ends at one.
-/

namespace RackTraffic

open Text

def lineFields (line : List Char) : List (List Char) := (trimEnd line).splitOn ' '

/-- The answer of a reader, with its faults told as a fault of `field`. -/
def readField {ε α : Type} (field : Field) (read : List Char → Except ε α) (s : List Char) :
    Except Malformed α :=
  (read s).mapError fun _ => .invalidField field (String.ofList s)

def Flow.ofFields (timeStep source destination label size rate : List Char) :
    Except Malformed Flow := do
  let timeStep ← readField .timeStep Integer.readUInt64 timeStep
  let source ← readField .source Integer.readUInt64 source
  let destination ← readField .destination Integer.readUInt64 destination
  let size ← readField .size TrafficUnit.bytes.read size
  let rate ← readField .rate TrafficUnit.gbps.read rate
  return {
    timeStep
    source := ⟨source⟩
    destination := ⟨destination⟩
    label := .ofText (String.ofList label)
    size := ⟨size⟩
    rate := ⟨rate⟩ }

/-- Read a flow, ignoring fields after its own. -/
def Flow.ofLine (line : List Char) : Except Malformed Flow :=
  match lineFields line with
  | timeStep :: source :: destination :: label :: size :: rate :: _ =>
    Flow.ofFields timeStep source destination label size rate
  | fields => .error (.tooFewFields 6 fields.length)

def AllocatedFlow.ofLine (line : List Char) : Except Malformed AllocatedFlow :=
  match lineFields line with
  | [timeStep, source, destination, label, size, rate, link] => do
    let flow ← Flow.ofFields timeStep source destination label size rate
    let code ← readField .link Integer.readInt64 link
    return { flow, link := .ofCode code }
  | fields => .error (.wrongFieldCount 7 fields.length)

def joinFields (fields : List (List Char)) : List Char := [' '].intercalate fields

def Flow.fields (flow : Flow) : List (List Char) :=
  [ Integer.ofUInt64 flow.timeStep,
    Integer.ofUInt64 flow.source.index,
    Integer.ofUInt64 flow.destination.index,
    flow.label.text.toList,
    TrafficUnit.bytes.write flow.size.count,
    TrafficUnit.gbps.write flow.rate.rate ]

def Flow.line (flow : Flow) : List Char := joinFields flow.fields

def AllocatedFlow.line (allocated : AllocatedFlow) : List Char :=
  joinFields (allocated.flow.fields ++ [Integer.ofInt64 allocated.link.code])

end RackTraffic
