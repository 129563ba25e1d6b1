import RackTraffic.Text.Integer

/-!
# Units of traffic

A transfer size is written as a bare number of bytes and a data rate as a number followed by
`Gbps`. Each unit reads back from exactly its own form.
-/

namespace RackTraffic

/-- A unit that numbers are written with. -/
inductive TrafficUnit where
  | bytes
  | gbps
  deriving DecidableEq, Repr

def TrafficUnit.suffix : TrafficUnit → String
  | .bytes => ""
  | .gbps => "Gbps"

inductive UnitFault where
  | missingSuffix (unit : TrafficUnit)
  | badNumber (fault : Integer.Fault)
  deriving DecidableEq, Repr

def UnitFault.message : UnitFault → String
  | .missingSuffix unit => "missing unit suffix `" ++ unit.suffix ++ "`"
  | .badNumber _ => "failed to parse unit value"

/-- A text without `suffix` at its end, if it ends so. -/
def Text.dropSuffix? (suffix s : List Char) : Option (List Char) :=
  if suffix.isSuffixOf s then some (s.take (s.length - suffix.length)) else none

def TrafficUnit.read (unit : TrafficUnit) (s : List Char) : Except UnitFault UInt64 :=
  match Text.dropSuffix? unit.suffix.toList s with
  | none => .error (.missingSuffix unit)
  | some digits => (Integer.readUInt64 digits).mapError .badNumber

def TrafficUnit.write (unit : TrafficUnit) (n : UInt64) : List Char :=
  Integer.ofUInt64 n ++ unit.suffix.toList

structure Bytes where
  count : UInt64
  deriving DecidableEq, Repr, Inhabited

structure Gbps where
  rate : UInt64
  deriving DecidableEq, Repr, Inhabited

end RackTraffic
