/-!
# Options of tools

The words after the name of a tool are options and operands. An option is a letter after a dash;
several of them may share the dash, and some take an argument. Options may come after operands, but
two dashes end them. A few options have long names, too.

Only the machine for scripts (`Shell.host`) needs this module, and only `Main` and test runs need
the machine; no result is about it.
-/

namespace RackTraffic.Shell

/-- What is wrong with the words of a tool. -/
inductive UsageFault where
  | invalidOption (letter : Char)
  | missingArgument (letter : Char)
  | unknownOption (word : String)
  | missingOperand
  | missingOperandAfter (word : String)
  | extraOperand (word : String)
  | other (wording : String)
  deriving DecidableEq, Repr

def UsageFault.message : UsageFault → String
  | .invalidOption letter => "invalid option -- '" ++ letter.toString ++ "'"
  | .missingArgument letter => "option requires an argument -- '" ++ letter.toString ++ "'"
  | .unknownOption word => "unrecognized option '" ++ word ++ "'"
  | .missingOperand => "missing operand"
  | .missingOperandAfter word => "missing operand after '" ++ word ++ "'"
  | .extraOperand word => "extra operand '" ++ word ++ "'"
  | .other wording => wording

/-- The options and operands of a tool. -/
structure Options where
  given : List (Char × String) := []
  operands : List String := []
  deriving Repr

namespace Options

def has (o : Options) (letter : Char) : Bool := o.given.any (·.1 == letter)

def last? (o : Options) (letter : Char) : Option String := o.given.reverse.lookup letter

def all (o : Options) (letter : Char) : List String :=
  (o.given.filter (·.1 == letter)).map Prod.snd

def withOption (o : Options) (letter : Char) (argument : String) : Options :=
  { o with given := (letter, argument) :: o.given }

def withOperand (o : Options) (word : String) : Options :=
  { o with operands := word :: o.operands }

/-- The letters of options, where those that take an argument are known. -/
structure Letters where
  plain : String
  withArgument : String := ""
  long : List (String × Char) := []

/-- Read the letters after a dash. The words that follow may hold the argument of the last one. -/
def readLetters (letters : Letters) (o : Options) (words : List String) :
    List Char → Except UsageFault (Options × List String)
  | [] => .ok (o, words)
  | c :: cs =>
    if letters.plain.toList.contains c then readLetters letters (o.withOption c "") words cs
    else if letters.withArgument.toList.contains c then
      if !cs.isEmpty then .ok (o.withOption c (String.ofList cs), words)
      else
        match words with
        | word :: words => .ok (o.withOption c word, words)
        | [] => .error (.missingArgument c)
    else .error (.invalidOption c)

/-- Read a long option, whose argument follows an equals sign or is the next word. -/
def readLong (letters : Letters) (o : Options) (word : String) (words : List String) :
    Except UsageFault (Options × List String) :=
  let (name, rest) := (word.toList.drop 2).span (· != '=')
  match letters.long.lookup (String.ofList name) with
  | none => .error (.unknownOption word)
  | some c =>
    if !letters.withArgument.toList.contains c then .ok (o.withOption c "", words)
    else
      match rest, words with
      | _ :: argument, _ => .ok (o.withOption c (String.ofList argument), words)
      | [], word :: words => .ok (o.withOption c word, words)
      | [], [] => .error (.missingArgument c)

/-- Read words, of which `o` holds what has been read from the end. -/
def readFrom (letters : Letters) (mixed : Bool) : (fuel : Nat) → Options → List String →
    Except UsageFault Options
  | 0, o, _ | _, o, [] => .ok o
  | fuel + 1, o, word :: words => do
    match word.toList with
    | ['-', '-'] => return words.foldl withOperand o
    | '-' :: '-' :: _ =>
      let (o, words) ← readLong letters o word words
      readFrom letters mixed fuel o words
    | '-' :: c :: cs =>
      let (o, words) ← readLetters letters o words (c :: cs)
      readFrom letters mixed fuel o words
    | _ =>
      if mixed then readFrom letters mixed fuel (o.withOperand word) words
      else return (word :: words).foldl withOperand o

/-- The options and operands among words. Unless they may be `mixed`, the first operand ends the
options. -/
def read (letters : Letters) (mixed : Bool) (words : List String) :
    Except UsageFault Options := do
  let o ← readFrom letters mixed (words.length + 1) {} words
  return { given := o.given.reverse, operands := o.operands.reverse }

end Options

end RackTraffic.Shell
