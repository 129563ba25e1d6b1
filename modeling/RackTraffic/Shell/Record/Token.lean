import RackTraffic.Shell.Printing
import RackTraffic.Shell.Word

/-!
# Tokens of record programs

A slash begins a regular expression where an operand may begin, and divides where one has ended. A
name directly before a parenthesis is that of a function.

Only the machine for scripts (`Shell.host`) needs this module, and only `Main` and test runs need
the machine; no result is about it.
-/

namespace RackTraffic.Shell.Record

/-- A token of a record program. -/
inductive Token where
  | number (x : Float)
  | text (s : List Char)
  | regex (s : List Char)
  | name (text : String)
  | call (text : String)
  | function (text : String)
  | word (text : String)
  | operator (text : String)
  | newline
  | ending
  | broken (reason : String)
  deriving Repr

abbrev Tokens := List (Token × Nat)

def reserved : List String :=
  ["BEGIN", "END", "function", "func", "if", "else", "while", "for", "do", "break", "continue",
    "next", "exit", "return", "delete", "in", "getline", "print", "printf"]

def functionNames : List String :=
  ["length", "substr", "index", "split", "sub", "gsub", "match", "sprintf", "sin", "cos", "atan2",
    "exp", "log", "sqrt", "int", "rand", "srand", "tolower", "toupper", "system", "close", "fflush"]

/-- The operators, longer ones first. -/
def symbols : List String :=
  ["&&", "||", "++", "--", "+=", "-=", "*=", "/=", "%=", "^=", "==", "<=", ">=", "!=", "!~", ">>",
    "\x7b", "\x7d", "(", ")", "[", "]", ";", ",", "+", "-", "*", "/", "%", "^", "!", ">", "<", "|",
    "?", ":", "~", "$", "="]

def Token.shown : Token → String
  | .number x => toString x
  | .text s => "\"" ++ String.ofList s ++ "\""
  | .regex s => "/" ++ String.ofList s ++ "/"
  | .name s | .call s | .function s | .word s | .operator s => s
  | .broken reason => reason
  | .newline => "end of line"
  | .ending => "end of file"

/-- Whether a token may end an operand. `before` is the answer for the token before it. -/
def Token.endsOperand (before : Bool) : Token → Bool
  | .number _ | .text _ | .regex _ | .name _ | .function _ => true
  | .operator s => [")", "]", "$"].contains s || (["++", "--"].contains s && before)
  | _ => false

/-- A text up to its closing quote, with its escapes replaced, and what follows. Without the quote
nothing follows. -/
def takeText : (fuel : Nat) → List Char → List Char × Option (List Char)
  | 0, _ | _, [] => ([], none)
  | _, '"' :: rest => ([], some rest)
  | _, '\n' :: _ => ([], none)
  | fuel + 1, '\\' :: c :: rest =>
    let more (shown : List Char) (rest : List Char) : List Char × Option (List Char) :=
      let (s, rest) := takeText fuel rest
      (shown ++ s, rest)
    match c with
    | '"' => more [c] rest
    | '\n' => more [] rest
    | _ =>
      match if c == 'e' then none else takeEscape ⟨false, false, false⟩ (c :: rest) with
      | some (.byte b, rest) => more [Char.ofNat b.toNat] rest
      | _ => more ['\\', c] rest
  | fuel + 1, c :: rest =>
    let (s, rest) := takeText fuel rest
    (c :: s, rest)

def unescaped (s : List Char) : List Char :=
  let shielded (c : Char) : List Char :=
    if c == '"' then ['\\', '"'] else if c == '\n' then ['\\', 'n'] else [c]
  (takeText (2 * s.length + 1) (s.flatMap shielded)).1

/-- A regular expression up to its closing slash, and what follows. In brackets a slash does not
close it. Without the slash nothing follows. -/
def takeRegex : (bracket : Bool) → List Char → List Char × Option (List Char)
  | _, [] | _, '\n' :: _ => ([], none)
  | bracket, '\\' :: c :: rest =>
    let (s, rest) := takeRegex bracket rest
    (if c == '/' then c :: s else '\\' :: c :: s, rest)
  | bracket, c :: rest =>
    if c == '/' && !bracket then ([], some rest)
    else
      let (s, rest) := takeRegex (if bracket then c != ']' else c == '[') rest
      (c :: s, rest)

/-- The tokens of a program. `ended` says that an operand has just ended. -/
def tokensOf : (fuel line : Nat) → (ended : Bool) → List Char → Tokens
  | 0, line, _, _ | _, line, _, [] => [(.ending, line + 1)]
  | fuel + 1, line, ended, c :: rest =>
    let more (token : Token) (rest : List Char) : Tokens :=
      (token, line) :: tokensOf fuel line (token.endsOperand ended) rest
    if c == ' ' || c == '\t' || c == '\r' then tokensOf fuel line ended rest
    else if c == '\n' then (.newline, line) :: tokensOf fuel (line + 1) false rest
    else if c == '\\' && rest.head? == some '\n' then tokensOf fuel (line + 1) ended rest.tail
    else if c == '#' then tokensOf fuel line ended (rest.dropWhile (· != '\n'))
    else if c == '"' then
      match takeText (rest.length + 1) rest with
      | (s, some rest) => more (.text s) rest
      | (s, none) =>
        [(.broken ("runaway string constant \"" ++ String.ofList s ++ " ..."), line)]
    else if c == '/' && !ended then
      match takeRegex false rest with
      | (s, some rest) => more (.regex s) rest
      | (s, none) =>
        [(.broken ("runaway regular expression /" ++ String.ofList s ++ " ..."), line)]
    else if c.isDigit || (c == '.' && rest.head?.any Char.isDigit) then
      let length := Printing.decimalLength (c :: rest)
      more (.number ((Decimal.readFloat? ((c :: rest).take length)).getD 0.0))
        ((c :: rest).drop length)
    else if c.isAlpha || c == '_' then
      let (name, after) := (c :: rest).span isNameChar
      let name := String.ofList name
      if reserved.contains name then more (.word name) after
      else if functionNames.contains name then more (.function name) after
      else if after.head? == some '(' then more (.call name) after
      else more (.name name) after
    else
      match symbols.find? fun text => text.toList.isPrefixOf (c :: rest) with
      | some text => more (.operator text) ((c :: rest).drop text.length)
      | none => more (.operator c.toString) rest

end RackTraffic.Shell.Record
