import RackTraffic.Shell.Record.Token
import RackTraffic.Shell.Record.Value

/-!
# Record programs

A program has rules, each with a pattern and an action. The action is carried out for the records
that the pattern selects, or before the first record, or after the last one. A program may have
functions of its own.

Binary operators have levels; those of a higher level bind more. What stands side by side is joined
as texts, at a level of its own.

Only the machine for scripts (`Shell.host`) needs this module, and only `Main` and test runs need
the machine; no result is about it.
-/

namespace RackTraffic.Shell.Record

/-! ## Expressions and statements -/

/-- An operator on numbers. -/
inductive Calculation where
  | plus | minus | times | over | modulo | power
  deriving DecidableEq, Repr

/-- A comparison. -/
inductive Comparison where
  | less | lessOrEqual | equal | unequal | greater | greaterOrEqual
  deriving DecidableEq, Repr

/-- An expression. -/
inductive Expression where
  | constant (v : Value)
  /-- Whether the record matches. -/
  | regex (r : Regex)
  | variable (name : String)
  | field (number : Expression)
  | element (table : String) (key : List Expression)
  | group (parts : List Expression)
  | assign (calculation : Option Calculation) (target value : Expression)
  /-- Add one or take one away. The value is that before or after. -/
  | step (up before : Bool) (target : Expression)
  | choose (condition a b : Expression)
  | both (a b : Expression)
  | either (a b : Expression)
  | not (a : Expression)
  | sign (minus : Bool) (a : Expression)
  | calculate (calculation : Calculation) (a b : Expression)
  | join (a b : Expression)
  | compare (comparison : Comparison) (a b : Expression)
  | matches (negated : Bool) (a pattern : Expression)
  | isIn (key : List Expression) (table : String)
  | call (name : String) (arguments : List Expression)
  | apply (name : String) (arguments : List Expression)
  /-- Read the next record, of the input or of a file. -/
  | readRecord (target : Option Expression) (file : Option Expression)
  /-- Read the next record that a command prints. -/
  | readCommand (command : Expression) (target : Option Expression)
  deriving Repr

def Expression.isTarget : Expression → Bool
  | .variable _ | .field _ | .element .. => true
  | _ => false

/-- Where something is printed. -/
inductive Destination where
  | file (append : Bool) (name : Expression)
  | command (text : Expression)
  deriving Repr

/-- A statement. -/
inductive Statement where
  | nothing
  | evaluate (e : Expression)
  | print (arguments : List Expression) (destination : Option Destination)
  | format (arguments : List Expression) (destination : Option Destination)
  | block (body : List Statement)
  | branch (condition : Expression) (yes no : Statement)
  /-- Repeat while a condition is met. With `late` the first time comes before the condition. -/
  | loop (late : Bool) (condition : Option Expression) (step body : Statement)
  | forEach (name table : String) (body : Statement)
  | leave
  | again
  | next
  | exit (status : Option Expression)
  | finish (value : Option Expression)
  /-- Take an element out of a table, or all of them. -/
  | delete (table : String) (key : List Expression)
  deriving Repr

/-- Which records a rule is for. -/
inductive Selection where
  | beforeFirst
  | afterLast
  | each
  | meeting (condition : Expression)
  | between (first last : Expression)
  deriving Repr

/-- A function of a program. -/
structure Function where
  name : String
  parameters : List String
  body : List Statement
  deriving Repr

/-- A program. A rule without an action prints the record. -/
structure Program where
  rules : List (Selection × List Statement) := []
  functions : List Function := []
  deriving Repr

/-! ## Reading -/

/-- What is wrong with a program, and on which line. -/
structure Fault where
  line : Nat
  reason : String
  deriving Repr

abbrev Reader := StateT Tokens (Except Fault)

def peek : Reader Token := do return ((← get).head?.map Prod.fst).getD .ending

def advance : Reader Unit := modify List.tail

def misplaced {α : Type} : Reader α := do
  match (← get).head? with
  | some (.ending, line) => throw ⟨line, "missing \x7d near end of file"⟩
  | some (.broken reason, line) => throw ⟨line, reason⟩
  | some (token, line) => throw ⟨line, "syntax error at or near " ++ token.shown⟩
  | none => throw ⟨0, ""⟩

def eat (symbol : String) : Reader Bool := do
  match ← peek with
  | .operator s =>
    if s = symbol then
      advance
      return true
    return false
  | _ => return false

/-- Go past an operator, which must be the next token. -/
def expect (symbol : String) : Reader Unit := do
  if !(← eat symbol) then misplaced

def eatWord (word : String) : Reader Bool := do
  match ← peek with
  | .word s =>
    if s = word then
      advance
      return true
    return false
  | _ => return false

def afterLines (semicolons : Bool) (tokens : Tokens) : Tokens :=
  tokens.dropWhile fun (token, _) =>
    match token with
    | .newline => true
    | .operator s => semicolons && s == ";"
    | _ => false

def skipLines : Reader Unit := modify (afterLines false)

def readName : Reader String := do
  match ← peek with
  | .name s =>
    advance
    return s
  | _ => misplaced

/-- What an expression is part of: what is printed, so that it cannot hold a bare sign for greater.
-/
structure Within where
  printed : Bool := false

/-- How two operands are combined. -/
inductive Joint where
  | both | either | isIn | joined | readCommand
  | matched (negated : Bool)
  | compared (comparison : Comparison)
  | calculated (calculation : Calculation)
  deriving DecidableEq, Repr

/-- The level at which operands are joined as texts. -/
def joinLevel : Nat := 5

def levels : Nat := 8

def jointOf (level : Nat) (within : Within) : String → Option Joint := fun symbol =>
  match level, symbol with
  | 0, "||" => some .either
  | 1, "&&" => some .both
  | 3, "~" => some (.matched false)
  | 3, "!~" => some (.matched true)
  | 4, "<" => some (.compared .less)
  | 4, "<=" => some (.compared .lessOrEqual)
  | 4, "==" => some (.compared .equal)
  | 4, "!=" => some (.compared .unequal)
  | 4, ">" => if within.printed then none else some (.compared .greater)
  | 4, ">=" => some (.compared .greaterOrEqual)
  | 6, "+" => some (.calculated .plus)
  | 6, "-" => some (.calculated .minus)
  | 7, "*" => some (.calculated .times)
  | 7, "/" => some (.calculated .over)
  | 7, "%" => some (.calculated .modulo)
  | _, _ => none

def jointAt (level : Nat) (within : Within) : Tokens → Option (Joint × Nat)
  | (.word "in", _) :: _ => if level = 2 then some (.isIn, 1) else none
  | (.operator "|", _) :: (.word "getline", _) :: _ =>
    if level = 4 then some (.readCommand, 2) else none
  | (.operator s, _) :: _ =>
    if level = joinLevel then
      if ["$", "(", "++", "--"].contains s then some (.joined, 0) else none
    else (jointOf level within s).map (·, 1)
  | (.number _, _) :: _ | (.text _, _) :: _ | (.name _, _) :: _ | (.call _, _) :: _
  | (.function _, _) :: _ => if level = joinLevel then some (.joined, 0) else none
  | _ => none

/-- The calculation of an assignment operator; nothing for the plain one. -/
def assignment? : Token → Option (Option Calculation)
  | .operator "=" => some none
  | .operator "+=" => some (some .plus)
  | .operator "-=" => some (some .minus)
  | .operator "*=" => some (some .times)
  | .operator "/=" => some (some .over)
  | .operator "%=" => some (some .modulo)
  | .operator "^=" => some (some .power)
  | _ => none

def Expression.parts : Expression → List Expression
  | .group parts => parts
  | e => [e]

mutual

def readExpression : (fuel : Nat) → Within → Reader Expression
  | 0, _ => misplaced
  | fuel + 1, within => do
    let e ← readLevel fuel 0 within
    if ← eat "?" then
      skipLines
      let a ← readExpression fuel within
      skipLines
      expect ":"
      skipLines
      return .choose e a (← readExpression fuel within)
    match assignment? (← peek), e.isTarget with
    | some calculation, true =>
      advance
      skipLines
      return .assign calculation e (← readExpression fuel within)
    | _, _ => return e

def readLevel : (fuel level : Nat) → Within → Reader Expression
  | 0, _, _ => misplaced
  | fuel + 1, level, within => do
    if level = levels then readUnary fuel within
    else readFurther fuel level within (← readLevel fuel (level + 1) within)

def readFurther : (fuel level : Nat) → Within → Expression → Reader Expression
  | 0, _, _, _ => misplaced
  | fuel + 1, level, within, a => do
    match jointAt level within (← get) with
    | none => return a
    | some (joint, count) =>
      modify (·.drop count)
      let operand : Reader Expression := readLevel fuel (level + 1) within
      match joint with
      | .both =>
        skipLines
        readFurther fuel level within (.both a (← operand))
      | .either =>
        skipLines
        readFurther fuel level within (.either a (← operand))
      | .isIn => readFurther fuel level within (.isIn a.parts (← readName))
      | .joined => readFurther fuel level within (.join a (← operand))
      | .readCommand => readFurther fuel level within (.readCommand a (← readTarget fuel))
      | .matched negated => readFurther fuel level within (.matches negated a (← operand))
      | .compared comparison => return .compare comparison a (← operand)
      | .calculated calculation =>
        readFurther fuel level within (.calculate calculation a (← operand))

def readUnary : (fuel : Nat) → Within → Reader Expression
  | 0, _ => misplaced
  | fuel + 1, within => do
    if ← eat "!" then return .not (← readUnary fuel within)
    if ← eat "-" then return .sign true (← readUnary fuel within)
    if ← eat "+" then return .sign false (← readUnary fuel within)
    let a ← readPostfix fuel
    if ← eat "^" then return .calculate .power a (← readUnary fuel within)
    return a

/-- An operand, perhaps with one added to it or taken away from it afterwards. -/
def readPostfix : (fuel : Nat) → Reader Expression
  | 0 => misplaced
  | fuel + 1 => do
    let a ← readAtom fuel
    if a.isTarget then
      if ← eat "++" then return .step true false a
      if ← eat "--" then return .step false false a
    return a

def readAtom : (fuel : Nat) → Reader Expression
  | 0 => misplaced
  | fuel + 1 => do
    match ← peek with
    | .number x =>
      advance
      return .constant (.number x)
    | .text s =>
      advance
      return .constant (.text s)
    | .regex s =>
      match Regex.ofText? true s with
      | some r =>
        advance
        return .regex r
      | none => misplaced
    | .name name =>
      advance
      if ← eat "[" then
        let key ← readList fuel {}
        expect "]"
        return .element name key
      return .variable name
    | .call name =>
      advance
      return .call name (← readArguments fuel)
    | .function name =>
      advance
      match ← peek with
      | .operator "(" => return .apply name (← readArguments fuel)
      | _ => return .apply name []
    | .operator "(" =>
      advance
      let parts ← readList fuel {}
      expect ")"
      match parts with
      | [e] => return if e.isTarget then .group [e] else e
      | parts => return .group parts
    | .operator "$" =>
      advance
      if ← eat "++" then return .field (.step true true (← readAtom fuel))
      if ← eat "--" then return .field (.step false true (← readAtom fuel))
      if ← eat "-" then return .field (.sign true (← readAtom fuel))
      return .field (← readAtom fuel)
    | .operator "++" =>
      advance
      return .step true true (← readAtom fuel)
    | .operator "--" =>
      advance
      return .step false true (← readAtom fuel)
    | .word "getline" =>
      advance
      let target ← readTarget fuel
      if ← eat "<" then return .readRecord target (some (← readPostfix fuel))
      return .readRecord target none
    | _ => misplaced

/-- What a record is read into, if that is given. -/
def readTarget : (fuel : Nat) → Reader (Option Expression)
  | 0 => misplaced
  | fuel + 1 => do
    match ← peek with
    | .name _ | .operator "$" => return some (← readAtom fuel)
    | _ => return none

def readList : (fuel : Nat) → Within → Reader (List Expression)
  | 0, _ => misplaced
  | fuel + 1, within => do
    let e ← readExpression fuel within
    if ← eat "," then
      skipLines
      return e :: (← readList fuel within)
    return [e]

def readArguments : (fuel : Nat) → Reader (List Expression)
  | 0 => misplaced
  | fuel + 1 => do
    expect "("
    if ← eat ")" then return []
    let arguments ← readList fuel {}
    skipLines
    expect ")"
    return arguments

end

def Token.endsStatement : Token → Bool
  | .newline | .ending => true
  | .operator s => s == ";" || s == "\x7d"
  | _ => false

def endStatement : Reader Unit := do
  match ← peek with
  | .newline | .operator ";" =>
    advance
    skipLines
  | .operator "\x7d" | .ending => return
  | _ => misplaced

/-- An expression, unless the statement ends here. -/
def readValue (fuel : Nat) : Reader (Option Expression) := do
  if (← peek).endsStatement then return none
  return some (← readExpression fuel {})

def readPrinted (fuel : Nat) : Reader (List Expression × Option Destination) := do
  let within : Within := { printed := true }
  let token ← peek
  let isBare : Bool := token.endsStatement || match token with
    | .operator s => s == ">" || s == ">>" || s == "|"
    | _ => false
  let arguments ← if isBare then pure [] else readList fuel within
  let arguments := match arguments with
    | [.group parts] => parts
    | arguments => arguments
  let name : Reader Expression := readExpression fuel within
  if ← eat ">" then return (arguments, some (.file false (← name)))
  if ← eat ">>" then return (arguments, some (.file true (← name)))
  if ← eat "|" then return (arguments, some (.command (← name)))
  return (arguments, none)

def readSimple (fuel : Nat) : Reader Statement := do
  match ← peek with
  | .word "print" =>
    advance
    let (arguments, destination) ← readPrinted fuel
    return .print arguments destination
  | .word "printf" =>
    advance
    let (arguments, destination) ← readPrinted fuel
    return .format arguments destination
  | .word "next" =>
    advance
    return .next
  | .word "break" =>
    advance
    return .leave
  | .word "continue" =>
    advance
    return .again
  | .word "exit" =>
    advance
    return .exit (← readValue fuel)
  | .word "return" =>
    advance
    return .finish (← readValue fuel)
  | .word "delete" =>
    advance
    let table ← readName
    if ← eat "[" then
      let key ← readList fuel {}
      expect "]"
      return .delete table key
    return .delete table []
  | _ => return .evaluate (← readExpression fuel {})

def keysOf? : Tokens → Option (String × String × Tokens)
  | (.name name, _) :: (.word "in", _) :: (.name table, _) :: (.operator ")", _) :: rest =>
    some (name, table, rest)
  | _ => none

mutual

def readStatement : (fuel : Nat) → Reader Statement
  | 0 => misplaced
  | fuel + 1 => do
    match ← peek with
    | .operator "\x7b" => return .block (← readBlock fuel)
    | .operator ";" =>
      endStatement
      return .nothing
    | .word "if" =>
      advance
      let condition ← readCondition fuel
      let yes ← readBody fuel
      let tokens ← get
      set (afterLines true tokens)
      if ← eatWord "else" then return .branch condition yes (← readBody fuel)
      set tokens
      return .branch condition yes .nothing
    | .word "while" =>
      advance
      let condition ← readCondition fuel
      return .loop false (some condition) .nothing (← readBody fuel)
    | .word "do" =>
      advance
      let body ← readBody fuel
      modify (afterLines true)
      if !(← eatWord "while") then misplaced
      let condition ← readCondition fuel
      endStatement
      return .loop true (some condition) .nothing body
    | .word "for" =>
      advance
      expect "("
      match keysOf? (← get) with
      | some (name, table, rest) =>
        set rest
        return .forEach name table (← readBody fuel)
      | none =>
        let simple : Reader Statement := do
          if (← peek).endsStatement then return .nothing
          readSimple fuel
        let first ← simple
        expect ";"
        skipLines
        let condition ← readValue fuel
        expect ";"
        skipLines
        let step ← match ← peek with
          | .operator ")" => pure .nothing
          | _ => readSimple fuel
        expect ")"
        return .block [first, .loop false condition step (← readBody fuel)]
    | _ =>
      let statement ← readSimple fuel
      endStatement
      return statement

def readCondition : (fuel : Nat) → Reader Expression
  | 0 => misplaced
  | fuel + 1 => do
    expect "("
    let e ← readExpression fuel {}
    expect ")"
    return e

def readBody : (fuel : Nat) → Reader Statement
  | 0 => misplaced
  | fuel + 1 => do
    skipLines
    readStatement fuel

def readBlock : (fuel : Nat) → Reader (List Statement)
  | 0 => misplaced
  | fuel + 1 => do
    expect "\x7b"
    skipLines
    readStatements fuel

def readStatements : (fuel : Nat) → Reader (List Statement)
  | 0 => misplaced
  | fuel + 1 => do
    if ← eat "\x7d" then return []
    let statement ← readStatement fuel
    skipLines
    return statement :: (← readStatements fuel)

end

def readNames : (fuel : Nat) → Reader (List String)
  | 0 => misplaced
  | fuel + 1 => do
    if ← eat ")" then return []
    let name ← readName
    let _ ← eat ","
    skipLines
    return name :: (← readNames fuel)

def readProgram : (fuel : Nat) → Program → Reader Program
  | 0, _ => misplaced
  | fuel + 1, program => do
    modify (afterLines true)
    let rule (selection : Selection) : Reader Program := do
      let body ← match ← peek with
        | .operator "\x7b" => readBlock fuel
        | _ => pure [.print [] none]
      return { program with rules := program.rules ++ [(selection, body)] }
    match ← peek with
    | .ending => return program
    | .word "BEGIN" =>
      advance
      readProgram fuel (← rule .beforeFirst)
    | .word "END" =>
      advance
      readProgram fuel (← rule .afterLast)
    | .word "function" | .word "func" =>
      advance
      let name ← match ← peek with
        | .call s | .name s => pure s
        | _ => misplaced
      advance
      expect "("
      let parameters ← readNames fuel
      skipLines
      let body ← readBlock fuel
      readProgram fuel
        { program with functions := program.functions ++ [⟨name, parameters, body⟩] }
    | .operator "\x7b" => readProgram fuel (← rule .each)
    | _ =>
      let first ← readExpression fuel {}
      if ← eat "," then
        skipLines
        readProgram fuel (← rule (.between first (← readExpression fuel {})))
      else readProgram fuel (← rule (.meeting first))

def Program.ofText (text : List Char) : Except Fault Program := do
  let tokens := tokensOf (text.length + 1) 1 false text
  let (program, _) ← readProgram (20 * tokens.length + 20) {} tokens
  let missing := tokens.findSome? fun (token, _) =>
    match token with
    | .call s => if program.functions.any (·.name == s) then none else some s
    | _ => none
  match missing with
  | some name => throw ⟨text.count '\n' + 2, "function " ++ name ++ " never defined"⟩
  | none => return program

end RackTraffic.Shell.Record
