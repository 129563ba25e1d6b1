/-!
# Options

The arguments of a command are options. An option has a long name and may have a short one; it
either takes a value or is a flag. The forms are

* `--name value` and `--name=value`;
* `-n value`, `-nvalue` and `-n=value`;
* `-abc` for the flags `a`, `b` and `c`, the last of which may be an option with a value.

A separate value may not begin with a dash, unless it is a dash alone. No option may be given twice,
and nothing but options may be given.
-/

namespace RackTraffic.CommandLine

structure OptionForm where
  long : String
  short : Option Char := none
  takesValue : Bool := true
  deriving DecidableEq, Repr

/-- The options that were given: their long names and values. A flag has an empty value. -/
abbrev Given := List (String × String)

/-- Add an option, unless it has been given before. -/
def addGiven (given : Given) (name value : String) : Option Given :=
  if (given.lookup name).isSome then none else some (given ++ [(name, value)])

/-- Whether an argument cannot be the value of an option before it. -/
def looksLikeOption (argument : String) : Bool :=
  argument != "-" && argument.toList.head? == some '-'

inductive Awaited where
  | option
  | value (name : String)
  deriving DecidableEq, Repr

/-- Read an option in its long form, without the dashes. -/
def readLong (forms : List OptionForm) (given : Given) (body : List Char) :
    Option (Given × Awaited) := do
  let (name, rest) := body.span (· != '=')
  let form ← forms.find? fun form => form.long.toList == name
  match form.takesValue, rest with
  | false, [] => return (← addGiven given form.long "", .option)
  | false, _ :: _ => none
  | true, [] => return (given, .value form.long)
  | true, _ :: value => return (← addGiven given form.long (String.ofList value), .option)

/-- Read options in their short forms, without the dash. -/
def readShort (forms : List OptionForm) : Given → List Char → Option (Given × Awaited)
  | given, [] => some (given, .option)
  | given, c :: rest => do
    let form ← forms.find? fun form => form.short == some c
    if form.takesValue then
      match rest with
      | [] => return (given, .value form.long)
      | '=' :: value => return (← addGiven given form.long (String.ofList value), .option)
      | value => return (← addGiven given form.long (String.ofList value), .option)
    else readShort forms (← addGiven given form.long "") rest

def readArguments (forms : List OptionForm) : Awaited → Given → List String → Option Given
  | .option, given, [] => some given
  | .value _, _, [] => none
  | .value name, given, argument :: rest => do
    if looksLikeOption argument then none
    else readArguments forms .option (← addGiven given name argument) rest
  | .option, given, argument :: rest => do
    if argument = "--" then
      if rest = [] then some given else none
    else
      let (given, awaited) ← match argument.toList with
        | '-' :: '-' :: body => readLong forms given body
        | '-' :: c :: body => readShort forms given (c :: body)
        | _ => none
      readArguments forms awaited given rest

/-! ## Values -/

namespace Given

def flag (given : Given) (name : String) : Bool := (given.lookup name).isSome

def required {α : Type} (given : Given) (read : String → Option α) (name : String) : Option α :=
  (given.lookup name).bind read

def optional {α : Type} (given : Given) (read : String → Option α) (name : String) :
    Option (Option α) :=
  match given.lookup name with
  | none => some none
  | some value => (read value).map some

def orDefault {α : Type} (given : Given) (read : String → Option α) (name : String)
    (default : α) : Option α :=
  (optional given read name).map fun value => value.getD default

end Given

end RackTraffic.CommandLine
