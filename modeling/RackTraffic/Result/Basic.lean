import RackTraffic.Decimal.Reading
import RackTraffic.Traffic.Name

/-!
# Simulation results

The result of a simulation is a text of fifteen *application lines*, one for each flow that was
simulated, such as `[3: 99874112.5 0.498]`: an index, a throughput and a latency. A *timing header*
may stand before them, as `Sim: 120, WallClock: 35, WallDiff: 1` or in the form that the simulator
prints, `Time: [Sim=120, WallClock=35, WallDiff=1]`.

The first written line is the header unless it opens a bracket. Faults are looked for in the order
of the lines, and the number of application lines is checked last.
-/

namespace RackTraffic

open Text

def applicationCount : Nat := 15

/-- The timing header of a result, in seconds. -/
structure Timing where
  simulated : Float
  elapsed : Float
  sinceReport : Float

structure Application where
  index : UInt64
  throughput : Float
  latency : Float

/-- A simulation result. -/
structure RunResult where
  timing : Option Timing
  applications : List Application

/-! ## The header -/

def afterKey? (key : List Char) : List Char → Option (List Char)
  | [] => dropStart? key []
  | c :: rest =>
    match dropStart? key (c :: rest) with
    | some after => some after
    | none => afterKey? key rest

/-- The value of a key: what follows it, less separators, up to a comma, a closing bracket or a
blank. -/
def headerValue? (key : String) (line : List Char) : Option (List Char) :=
  (afterKey? key.toList line).map fun after =>
    (after.dropWhile fun c => c == ':' || c == '=' || c == ' ').takeWhile fun c =>
      !(c == ',' || c == ']' || isBlank c)

def headerNumber? (key : String) (line : List Char) : Option Float :=
  (headerValue? key line).bind Decimal.readFloat?

/-- Read a timing header, which is valid if each of its three keys has a number. -/
def Timing.ofLine (line : List Char) : Except Malformed Timing :=
  match headerNumber? "Sim" line, headerNumber? "WallClock" line, headerNumber? "WallDiff" line with
  | some simulated, some elapsed, some sinceReport => .ok { simulated, elapsed, sinceReport }
  | _, _, _ => .error (.invalidHeader (String.ofList line))

/-! ## Application lines -/

def bracketed? : List Char → Option (List Char)
  | '[' :: rest => if rest.getLast? = some ']' then some rest.dropLast else none
  | _ => none

def readFloatField (field : Field) (s : List Char) : Except Malformed Float :=
  match Decimal.readFloat? s with
  | some x => .ok x
  | none => .error (.invalidField field (String.ofList s))

/-- Read an application line. Words after the third are ignored, and so are colons that end the
first. -/
def Application.ofLine (line : List Char) : Except Malformed Application :=
  match bracketed? (trim line) with
  | none => .error (.invalidField .application (String.ofList line))
  | some inner =>
    match words inner with
    | index :: throughput :: latency :: _ => do
      let index ← readField .applicationIndex Integer.readUInt64 (dropEndWhile (· == ':') index)
      let throughput ← readFloatField .throughput throughput
      let latency ← readFloatField .latency latency
      return { index, throughput, latency }
    | found => .error (.tooFewFields 3 found.length)

/-! ## Whole results -/

/-- Whether a written line is a header when it comes first. -/
def isHeader (line : List Char) : Bool := (trimStart line).head? != some '['

/-- Read the header, if there is one, and return the lines that follow it. -/
def takeTiming : List (List Char × Nat) →
    Except Malformed (Option Timing × List (List Char × Nat))
  | [] => .ok (none, [])
  | (line, number) :: rest =>
    if isHeader line then do
      let timing ← (Timing.ofLine line).mapError (.atLine number)
      return (some timing, rest)
    else .ok (none, (line, number) :: rest)

/-- Read a result. -/
def RunResult.ofText (text : String) : Except Malformed RunResult := do
  let (timing, rest) ← takeTiming (writtenLines text.toList)
  let applications ← readLines Application.ofLine rest
  if applications.length = applicationCount then return { timing, applications }
  else .error (.wrongLineCount applicationCount applications.length)

/-- The mean throughput of the applications. The sum starts from negative zero, which adding keeps
only if every throughput is negative zero; a result without applications has mean 0. -/
def RunResult.average (result : RunResult) : Float :=
  if result.applications.isEmpty then 0.0
  else
    (result.applications.foldl (fun sum app => sum + app.throughput) (-0.0)) /
      Float.ofNat result.applications.length

end RackTraffic
