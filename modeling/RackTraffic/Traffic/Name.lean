import RackTraffic.Traffic.Log

/-!
# File names

The name of a file says whose it is:

* `flows__12.dat` holds the flows of scenario 12;
* `alloc__12_3.dat` holds variant 3 of scenario 12;
* `12_3.txt` holds the simulation result of that variant.

A name is recognised only in exactly this form. Another spelling of the same number, such as
`flows__012.dat`, is some other file, so that a scenario or variant has one file and no more. To be
sure of it, recognition reads the numbers and compares the name with the one made from them.

While a simulation runs, its result stands in a *partial* file with a hidden name, and what it
prints goes to a console file. Neither name is that of a log or a result.
-/

namespace RackTraffic

open Text

/-- A variant together with its scenario. -/
structure PairId where
  scenario : ScenarioId
  variant : VariantId
  deriving DecidableEq, Repr, Inhabited

def PairId.text (id : PairId) : List Char :=
  Integer.ofUInt64 id.scenario.number ++ '_' :: Integer.ofUInt64 id.variant.number

/-- A name made of a stem and what stands before and after it. -/
structure NameForm where
  before : List Char
  after : List Char

def NameForm.flowLog : NameForm := ⟨"flows__".toList, ".dat".toList⟩

def NameForm.allocationLog : NameForm := ⟨"alloc__".toList, ".dat".toList⟩

def NameForm.result : NameForm := ⟨[], ".txt".toList⟩

def NameForm.name (form : NameForm) (stem : List Char) : String :=
  String.ofList (form.before ++ stem ++ form.after)

/-- A text without `start` at its beginning, if it begins so. -/
def Text.dropStart? (start s : List Char) : Option (List Char) :=
  if start.isPrefixOf s then some (s.drop start.length) else none

def NameForm.stem? (form : NameForm) (name : String) : Option (List Char) :=
  (dropStart? form.before name.toList).bind (dropSuffix? form.after)

def ScenarioId.flowLogName (id : ScenarioId) : String :=
  NameForm.flowLog.name (Integer.ofUInt64 id.number)

def PairId.allocationLogName (id : PairId) : String := NameForm.allocationLog.name id.text

def PairId.resultName (id : PairId) : String := NameForm.result.name id.text

/-- The name of a variant's result while it is being made. -/
def PairId.partialName (id : PairId) : String := "." ++ id.resultName ++ ".partial"

def PairId.consoleName (id : PairId) : String := String.ofList (id.text ++ ".log".toList)

/-! ## Recognition -/

def readNumber? (stem : List Char) : Option UInt64 := (Integer.readUInt64 stem).toOption

/-- The pair that a stem spells: two numbers with the first underscore between them. -/
def PairId.ofStem? (stem : List Char) : Option PairId :=
  match stem.span (· != '_') with
  | (scenario, '_' :: variant) => do
    let scenario ← readNumber? scenario
    let variant ← readNumber? variant
    return ⟨⟨scenario⟩, ⟨variant⟩⟩
  | _ => none

def ScenarioId.ofFlowLogName? (name : String) : Option ScenarioId := do
  let stem ← NameForm.flowLog.stem? name
  let id : ScenarioId := ⟨← readNumber? stem⟩
  if id.flowLogName = name then some id else none

def PairId.ofAllocationLogName? (name : String) : Option PairId := do
  let id ← PairId.ofStem? (← NameForm.allocationLog.stem? name)
  if id.allocationLogName = name then some id else none

def PairId.ofResultName? (name : String) : Option PairId := do
  let id ← PairId.ofStem? (← NameForm.result.stem? name)
  if id.resultName = name then some id else none

def AllocationLog.id (log : AllocationLog) : PairId := ⟨log.scenario, log.variant⟩

end RackTraffic
