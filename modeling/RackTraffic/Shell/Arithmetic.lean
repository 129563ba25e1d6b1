/-!
# Arithmetic of the shell

Expressions over integers of 64 bits, which wrap around. They are written with the usual operators;
an expression may also assign to variables. The operands that a condition makes superfluous are not
evaluated.

The value of a variable is the number that its text begins with, and nothing but blanks may follow.
A number is written in base 10, in base 8 after a zero, or in base 16 after `0x`.

Only the machine for scripts (`Shell.host`) needs this module, and only `Main` and test runs need
the machine; no result is about it.
-/

namespace RackTraffic.Shell

/-- Why an expression has no value. -/
inductive ArithmeticFault where
  | expecting (what : String) (expression : String)
  | divisionByZero (expression : String)
  | illegalNumber (text : String)
  deriving DecidableEq, Repr

def ArithmeticFault.message : ArithmeticFault → String
  | .expecting what expression =>
    "arithmetic expression: expecting " ++ what ++ ": \"" ++ expression ++ "\""
  | .divisionByZero expression =>
    "arithmetic expression: division by zero: \"" ++ expression ++ "\""
  | .illegalNumber text => "Illegal number: " ++ text

/-! ## Numbers -/

def isNumberBlank (c : Char) : Bool := c == ' ' || ('\t' ≤ c && c ≤ '\r')

def digitOf? (base : Nat) (c : Char) : Option Nat :=
  let value :=
    if c.isDigit then c.toNat - '0'.toNat
    else if 'a' ≤ c && c ≤ 'z' then c.toNat - 'a'.toNat + 10
    else if 'A' ≤ c && c ≤ 'Z' then c.toNat - 'A'.toNat + 10
    else base
  if value < base then some value else none

/-- The number that the digits at the start of a text stand for, and what follows them. -/
def takeDigits (base : Nat) (s : List Char) : Nat × List Char :=
  let (digits, rest) := s.span fun c => (digitOf? base c).isSome
  (digits.foldl (fun n c => base * n + (digitOf? base c).getD 0) 0, rest)

/-- The number at the start of a text, which begins with a digit, and what follows it. -/
def takeNatural : List Char → Nat × List Char
  | '0' :: x :: d :: rest =>
    if (x == 'x' || x == 'X') && (digitOf? 16 d).isSome then takeDigits 16 (d :: rest)
    else takeDigits 8 (x :: d :: rest)
  | '0' :: rest => takeDigits 8 rest
  | s => takeDigits 10 s

def maxNumber : Int := Int64.maxValue.toInt

def numberOf? (base : Option Nat) (text : String) : Option Int :=
  let s := text.toList.dropWhile isNumberBlank
  let (negative, s) := match s with
    | '-' :: rest => (true, rest)
    | '+' :: rest => (false, rest)
    | _ => (false, s)
  let (n, rest) := match base with
    | some base => takeDigits base s
    | none => takeNatural s
  let blank := base.isSome && !s.head?.any Char.isDigit
  let n : Int := if negative then -n else n
  if blank || !rest.all isNumberBlank || maxNumber < n || n < -maxNumber - 1 then none else some n

/-! ## Expressions -/

/-- An operator with two operands. -/
inductive BinaryOperator where
  | times | over | modulo | plus | minus | shiftLeft | shiftRight
  | less | lessOrEqual | greater | greaterOrEqual | equal | unequal
  | and | exclusiveOr | or
  deriving DecidableEq, Repr

/-- An operator with one operand. -/
inductive UnaryOperator where
  | minus | not | complement
  deriving DecidableEq, Repr

/-- An expression. -/
inductive Arithmetic where
  | number (n : Int64)
  | variable (name : String)
  | unary (operator : UnaryOperator) (a : Arithmetic)
  | binary (operator : BinaryOperator) (a b : Arithmetic)
  | both (a b : Arithmetic)
  | either (a b : Arithmetic)
  | choose (condition a b : Arithmetic)
  | assign (name : String) (operator : Option BinaryOperator) (a : Arithmetic)
  deriving Repr

/-- A token of an expression. -/
inductive ArithmeticToken where
  | number (n : Int64)
  | name (text : String)
  | operator (text : String)
  deriving DecidableEq, Repr

/-- The operators of expressions, longer ones first. -/
def arithmeticOperators : List String :=
  ["<<=", ">>=", "<<", ">>", "<=", ">=", "==", "!=", "&&", "||", "*=", "/=", "%=", "+=", "-=", "&=",
    "^=", "|=", "*", "/", "%", "+", "-", "<", ">", "&", "^", "|", "!", "~", "?", ":", "=", "(", ")"]

/-- The tokens of an expression. A character that belongs to none is one of its own. -/
def arithmeticTokens : (fuel : Nat) → List Char → List ArithmeticToken
  | 0, _ | _, [] => []
  | fuel + 1, c :: rest =>
    if c == ' ' || c == '\t' || c == '\n' then arithmeticTokens fuel rest
    else if c.isDigit then
      let (n, rest) := takeNatural (c :: rest)
      .number (.ofInt (min n maxNumber)) :: arithmeticTokens fuel rest
    else if c.isAlpha || c == '_' then
      let (name, rest) := (c :: rest).span fun d => d.isAlphanum || d == '_'
      .name (String.ofList name) :: arithmeticTokens fuel rest
    else
      match arithmeticOperators.find? fun text => text.toList.isPrefixOf (c :: rest) with
      | some text =>
        .operator text :: arithmeticTokens fuel ((c :: rest).drop text.length)
      | none => .operator c.toString :: arithmeticTokens fuel rest

/-- The operators with two operands by precedence, those that bind least first. -/
def binaryOperators : List (List (String × BinaryOperator)) :=
  [ [("|", .or)], [("^", .exclusiveOr)], [("&", .and)],
    [("==", .equal), ("!=", .unequal)],
    [("<", .less), ("<=", .lessOrEqual), (">", .greater), (">=", .greaterOrEqual)],
    [("<<", .shiftLeft), (">>", .shiftRight)],
    [("+", .plus), ("-", .minus)],
    [("*", .times), ("/", .over), ("%", .modulo)] ]

def assignmentOperator? (text : String) : Option (Option BinaryOperator) :=
  if text = "=" then some none
  else
    match text.toList.getLast? with
    | some '=' =>
      let bare := String.ofList text.toList.dropLast
      let combining := ["*", "/", "%", "+", "-", "<<", ">>", "&", "^", "|"]
      if combining.contains bare then (binaryOperators.flatten.lookup bare).map some else none
    | _ => none

namespace Arithmetic

/-- What is read from tokens, or what is missing. -/
abbrev Taken := Except String

mutual

def takeAssignment : (fuel : Nat) → List ArithmeticToken →
    Taken (Arithmetic × List ArithmeticToken)
  | 0, _ => throw "primary"
  | fuel + 1, ts => do
    match ts with
    | .name name :: .operator text :: rest =>
      match assignmentOperator? text with
      | some operator =>
        let (a, rest) ← takeAssignment fuel rest
        return (.assign name operator a, rest)
      | none => takeChoice fuel ts
    | _ => takeChoice fuel ts

/-- A choice between two values, or one. -/
def takeChoice : (fuel : Nat) → List ArithmeticToken → Taken (Arithmetic × List ArithmeticToken)
  | 0, _ => throw "primary"
  | fuel + 1, ts => do
    let (condition, rest) ← takeEither fuel ts
    match rest with
    | .operator "?" :: rest =>
      let (a, rest) ← takeAssignment fuel rest
      let .operator ":" :: rest := rest | throw "':'"
      let (b, rest) ← takeChoice fuel rest
      return (.choose condition a b, rest)
    | _ => return (condition, rest)

def takeEither : (fuel : Nat) → List ArithmeticToken → Taken (Arithmetic × List ArithmeticToken)
  | 0, _ => throw "primary"
  | fuel + 1, ts => do
    let (a, rest) ← takeBoth fuel ts
    match rest with
    | .operator "||" :: rest =>
      let (b, rest) ← takeEither fuel rest
      return (.either a b, rest)
    | _ => return (a, rest)

def takeBoth : (fuel : Nat) → List ArithmeticToken → Taken (Arithmetic × List ArithmeticToken)
  | 0, _ => throw "primary"
  | fuel + 1, ts => do
    let (a, rest) ← takeBinary fuel binaryOperators ts
    match rest with
    | .operator "&&" :: rest =>
      let (b, rest) ← takeBoth fuel rest
      return (.both a b, rest)
    | _ => return (a, rest)

def takeBinary : (fuel : Nat) → List (List (String × BinaryOperator)) → List ArithmeticToken →
    Taken (Arithmetic × List ArithmeticToken)
  | 0, _, _ => throw "primary"
  | fuel + 1, [], ts => takeOperand fuel ts
  | fuel + 1, level :: tighter, ts => do
    let (a, rest) ← takeBinary fuel tighter ts
    takeBinaryAfter fuel level tighter a rest

def takeBinaryAfter : (fuel : Nat) → List (String × BinaryOperator) →
    List (List (String × BinaryOperator)) → Arithmetic → List ArithmeticToken →
    Taken (Arithmetic × List ArithmeticToken)
  | 0, _, _, _, _ => throw "primary"
  | fuel + 1, level, tighter, a, ts => do
    match ts with
    | .operator text :: rest =>
      match level.lookup text with
      | some operator =>
        let (b, rest) ← takeBinary fuel tighter rest
        takeBinaryAfter fuel level tighter (.binary operator a b) rest
      | none => return (a, ts)
    | _ => return (a, ts)

def takeOperand : (fuel : Nat) → List ArithmeticToken → Taken (Arithmetic × List ArithmeticToken)
  | 0, _ => throw "primary"
  | fuel + 1, ts => do
    let unary (operator : UnaryOperator) (found : Arithmetic × List ArithmeticToken) :
        Taken (Arithmetic × List ArithmeticToken) :=
      return (.unary operator found.1, found.2)
    match ts with
    | .number n :: rest => return (.number n, rest)
    | .name name :: rest => return (.variable name, rest)
    | .operator "(" :: rest =>
      let (a, rest) ← takeAssignment fuel rest
      let .operator ")" :: rest := rest | throw "')'"
      return (a, rest)
    | .operator "+" :: rest => takeOperand fuel rest
    | .operator "-" :: rest => unary .minus (← takeOperand fuel rest)
    | .operator "!" :: rest => unary .not (← takeOperand fuel rest)
    | .operator "~" :: rest => unary .complement (← takeOperand fuel rest)
    | _ => throw "primary"

end

def ofText (text : String) : Except ArithmeticFault Arithmetic :=
  let ts := arithmeticTokens (text.length + 1) text.toList
  match takeAssignment (16 * ts.length + 16) ts with
  | .error what => throw (.expecting what text)
  | .ok (a, []) => return a
  | .ok _ => throw (.expecting "EOF" text)

/-! ## Values -/

def truth (b : Bool) : Int64 := if b then 1 else 0

/-- The values that have been assigned, last ones first. -/
abbrev Assigned := List (String × Int64)

abbrev Evaluation := StateT Assigned (Except ArithmeticFault)

def combine (text : String) (operator : BinaryOperator) (a b : Int64) :
    Except ArithmeticFault Int64 :=
  match operator with
  | .times => return a * b
  | .over => if b = 0 then throw (.divisionByZero text) else return a / b
  | .modulo => if b = 0 then throw (.divisionByZero text) else return a % b
  | .plus => return a + b
  | .minus => return a - b
  | .shiftLeft => return a <<< b
  | .shiftRight => return a >>> b
  | .less => return truth (a < b)
  | .lessOrEqual => return truth (a ≤ b)
  | .greater => return truth (b < a)
  | .greaterOrEqual => return truth (b ≤ a)
  | .equal => return truth (a = b)
  | .unequal => return truth (a ≠ b)
  | .and => return a &&& b
  | .exclusiveOr => return a ^^^ b
  | .or => return a ||| b

/-- The value of a variable, whose text `lookup` gives if nothing has been assigned to it. -/
def valueOf (lookup : String → String) (name : String) : Evaluation Int64 := do
  match (← get).lookup name with
  | some n => return n
  | none =>
    match numberOf? none (lookup name) with
    | some n => return .ofInt n
    | none => throw (.illegalNumber (lookup name))

def evaluate (text : String) (lookup : String → String) : Arithmetic → Evaluation Int64
  | .number n => return n
  | .variable name => valueOf lookup name
  | .unary operator a => do
    let n ← a.evaluate text lookup
    match operator with
    | .minus => return -n
    | .not => return truth (n = 0)
    | .complement => return ~~~n
  | .binary operator a b => do
    let m ← a.evaluate text lookup
    combine text operator m (← b.evaluate text lookup)
  | .both a b => do
    if (← a.evaluate text lookup) = 0 then return 0
    return truth ((← b.evaluate text lookup) ≠ 0)
  | .either a b => do
    if (← a.evaluate text lookup) ≠ 0 then return 1
    return truth ((← b.evaluate text lookup) ≠ 0)
  | .choose condition a b => do
    if (← condition.evaluate text lookup) ≠ 0 then a.evaluate text lookup
    else b.evaluate text lookup
  | .assign name operator a => do
    let n ← a.evaluate text lookup
    let n ← match operator with
      | none => pure n
      | some operator => combine text operator (← valueOf lookup name) n
    modify ((name, n) :: ·)
    return n

def run (text : String) (lookup : String → String) :
    Except ArithmeticFault (Int64 × Assigned) := do
  let (n, assigned) ← ((← ofText text).evaluate text lookup).run []
  return (n, assigned.reverse)

end Arithmetic

end RackTraffic.Shell
