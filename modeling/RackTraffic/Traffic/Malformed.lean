import RackTraffic.Text.Integer
import RackTraffic.Text.Quoted
import RackTraffic.Traffic.Flow

/-!
# Malformed records

The ways in which a line of a log or of a simulator result can be wrong, and the wording of each.
A fault of a line inside a file is wrapped once, with the number of the line.
-/

namespace RackTraffic

inductive Field where
  | timeStep
  | source
  | destination
  | size
  | rate
  | link
  | application
  | applicationIndex
  | throughput
  | latency
  deriving DecidableEq, Repr

def Field.name : Field → String
  | .timeStep => "time step"
  | .source => "source node"
  | .destination => "destination node"
  | .size => "transfer size"
  | .rate => "data rate"
  | .link => "link type"
  | .application => "application result"
  | .applicationIndex => "application index"
  | .throughput => "throughput"
  | .latency => "latency"

/-- A fault in a record. -/
inductive Malformed where
  | tooFewFields (expected found : Nat)
  /-- A line must have a fixed number of fields and has another. -/
  | wrongFieldCount (expected found : Nat)
  | invalidField (field : Field) (text : String)
  | rackOutOfRange (rack : Rack) (rackCount : UInt64)
  /-- The first line of a result is neither a header nor an application. -/
  | invalidHeader (line : String)
  | wrongLineCount (expected found : Nat)
  | atLine (line : Nat) (fault : Malformed)
  deriving DecidableEq, Repr

def Malformed.message : Malformed → String
  | .tooFewFields expected found =>
    s!"too few fields (expected at least {expected}, got {found})"
  | .wrongFieldCount expected found =>
    s!"wrong number of fields (expected {expected}, got {found})"
  | .invalidField field text => "invalid " ++ field.name ++ ": " ++ Text.quote text
  | .rackOutOfRange rack rackCount =>
    s!"node {rack.index} is out of range for {rackCount} ToRs"
  | .invalidHeader line => "invalid result header: " ++ Text.quote line
  | .wrongLineCount expected found =>
    s!"wrong number of result lines (expected {expected}, got {found})"
  | .atLine line fault => s!"line {line}: " ++ fault.message

/-- The fault that a wrapped fault holds. -/
def Malformed.cause? : Malformed → Option Malformed
  | .atLine _ fault => some fault
  | _ => none

end RackTraffic
