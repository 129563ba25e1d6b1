import RackTraffic.Shell.Word

/-!
# Tokens of the shell

A script is a sequence of words, operators and redirections. Blanks separate words, a line feed is
an operator, and a number sign at the start of a word begins a comment. Quotes, parameters and
embedded commands may hold characters that otherwise end a word.

A redirection may take its input from the lines that follow the line it is on. Such a *document*
comes after the line feed; it is put in the place of the word that ends it.

Only the machine for scripts (`Shell.host`) needs this module, and only `Main` and test runs need
the machine; no result is about it.
-/

namespace RackTraffic.Shell

/-- Why a text is not a script. -/
inductive SyntaxFault where
  | unclosedQuote
  | unclosedBackquote
  | unclosedBrace
  | unclosedArithmetic
  | unexpected (found : String) (expected : Option String)
  | badLoopVariable
  | badFunctionName
  deriving DecidableEq, Repr

def SyntaxFault.message : SyntaxFault → String
  | .unclosedQuote => "Unterminated quoted string"
  | .unclosedBackquote => "EOF in backquote substitution"
  | .unclosedBrace => "Missing '\x7d'"
  | .unclosedArithmetic => "Missing '))'"
  | .unexpected found none => found ++ " unexpected"
  | .unexpected found (some expected) => found ++ " unexpected (expecting " ++ expected ++ ")"
  | .badLoopVariable => "Bad for loop variable"
  | .badFunctionName => "Bad function name"

/-- What is done with a stream. -/
inductive Redirect where
  | read
  | write
  | overwrite
  | append
  | both
  | copy
  /-- Read the lines that follow, without tabulators at their start or with them. -/
  | document (untabbed : Bool)
  deriving DecidableEq, Repr

/-- A token of a script. -/
inductive Token where
  | word (word : Word)
  | operator (text : String)
  | redirect (stream : Nat) (kind : Redirect)
  | document (contents : Word)
  | ending
  | fault (fault : SyntaxFault)
  deriving Repr

/-- Tokens with their lines. -/
abbrev Tokens := List (Token × Nat)

/-! ## Embedded commands

The end of an embedded command is found without reading it as a script: by counting parentheses,
except those in quotes and those that close a pattern of a choice.
-/

/-- A word after which a command begins. -/
def startsCommand (word : String) : Bool :=
  ["!", "\x7b", "if", "then", "elif", "else", "while", "until", "do"].contains word

def afterSingle (s : List Char) : Option (List Char) :=
  match s.dropWhile (· != '\'') with
  | [] => none
  | _ :: rest => some rest

/-- What an open bracket waits for. -/
inductive Opening where
  | parenthesis
  | choice
  deriving DecidableEq, Repr

mutual

/-- What follows the parenthesis that closes an embedded command. `fresh` says that a command may
begin here and `between` that a word may. -/
def afterCommand : (fuel : Nat) → (opened : List Opening) → (fresh between : Bool) → List Char →
    Option (List Char)
  | 0, _, _, _, _ | _, _, _, _, [] => none
  | fuel + 1, opened, fresh, between, c :: rest =>
    let inWord := afterCommand fuel opened false false
    match c, opened with
    | '\\', _ => inWord rest.tail
    | '\'', _ => (afterSingle rest).bind inWord
    | '"', _ => (afterEnclosed fuel '"' rest).bind inWord
    | '\x60', _ => (afterEnclosed fuel '\x60' rest).bind inWord
    | '$', _ =>
      match rest with
      | '\x7b' :: rest => (afterEnclosed fuel '\x7d' rest).bind inWord
      | '(' :: rest => afterCommand fuel (.parenthesis :: opened) true true rest
      | _ => inWord rest
    | '(', _ => afterCommand fuel (.parenthesis :: opened) true true rest
    | ')', [] => some rest
    | ')', .parenthesis :: opened => afterCommand fuel opened false true rest
    | ')', .choice :: _ => afterCommand fuel opened true true rest
    | _, _ =>
      if c == '#' && between then
        afterCommand fuel opened fresh true (rest.dropWhile (· != '\n'))
      else if c == ' ' || c == '\t' then afterCommand fuel opened fresh true rest
      else if ['\n', ';', '&', '|'].contains c then afterCommand fuel opened true true rest
      else if fresh && between then
        let (word, after) := (c :: rest).span fun d => isNameChar d || d == '!' || d == '\x7b'
        let word := String.ofList word
        if word = "" then inWord rest
        else if word = "case" then afterCommand fuel (.choice :: opened) false false after
        else if word = "esac" && opened.head? = some .choice then
          afterCommand fuel opened.tail false false after
        else afterCommand fuel opened (startsCommand word) false after
      else inWord rest

def afterEnclosed : (fuel : Nat) → (close : Char) → List Char → Option (List Char)
  | 0, _, _ | _, _, [] => none
  | fuel + 1, close, c :: rest =>
    if c == close then some rest
    else
      match c, rest with
      | '\\', rest => afterEnclosed fuel close rest.tail
      | '$', '(' :: rest => (afterCommand fuel [] true true rest).bind (afterEnclosed fuel close)
      | '$', '\x7b' :: rest =>
        (afterEnclosed fuel '\x7d' rest).bind (afterEnclosed fuel close)
      | _, _ => afterEnclosed fuel close rest

end

/-- The text of a command between back quotes, in which a backslash protects only a few characters,
and what follows it. -/
def takeBackquoted (quoted : Bool) : List Char → Option (List Char × List Char)
  | [] => none
  | '\x60' :: rest => some ([], rest)
  | '\\' :: c :: rest => do
    let (text, rest) ← takeBackquoted quoted rest
    let protects := ['\\', '$', '\x60'].contains c || (quoted && c == '"')
    return (if protects then c :: text else '\\' :: c :: text, rest)
  | c :: rest => do
    let (text, rest) ← takeBackquoted quoted rest
    return (c :: text, rest)

/-! ## Words -/

/-- What surrounds characters that are quoted. -/
inductive Enclosure where
  | quotes
  | braces
  | document
  | arithmetic (depth : Nat)
  deriving DecidableEq, Repr

def Enclosure.unclosed : Enclosure → SyntaxFault
  | .quotes | .document => .unclosedQuote
  | .braces => .unclosedBrace
  | .arithmetic _ => .unclosedArithmetic

def Enclosure.protects (enclosure : Enclosure) (c : Char) : Bool :=
  ['$', '\\', '\x60'].contains c ||
    match enclosure with
    | .quotes => c == '"'
    | .braces => c == '"' || c == '\x7d'
    | .document | .arithmetic _ => false

abbrev Lexed := Except SyntaxFault

def takeAdjustment (s : List Char) : Option (Adjustment × List Char) :=
  let choose (orEmpty : Bool) : List Char → Option (Adjustment × List Char)
    | '-' :: rest => some (.fallback orEmpty, rest)
    | '=' :: rest => some (.assign orEmpty, rest)
    | '?' :: rest => some (.demand orEmpty, rest)
    | '+' :: rest => some (.instead orEmpty, rest)
    | _ => none
  match s with
  | '#' :: '#' :: rest => some (.trimStart true, rest)
  | '#' :: rest => some (.trimStart false, rest)
  | '%' :: '%' :: rest => some (.trimEnd true, rest)
  | '%' :: rest => some (.trimEnd false, rest)
  | ':' :: rest => choose true rest
  | _ => choose false s

def endsWord (c : Char) : Bool :=
  [' ', '\t', '\n', ';', '&', '|', '<', '>', '(', ')'].contains c

def linesBefore (rest s : List Char) : Nat := (s.take (s.length - rest.length)).count '\n'

/-- The pieces of a text between double quotes. All arguments of the script, and nothing else, may
be no word at all. -/
def quotedPieces (inner : Word) : Word :=
  match inner with
  | [.value "@" true none] => inner
  | _ => .quotes :: inner

mutual

def takeWord : (fuel line : Nat) → (ends : Char → Bool) → List Char → Lexed (Word × List Char)
  | 0, _, _, _ => throw .unclosedQuote
  | fuel + 1, line, ends, s =>
    let more (pieces : Word) (lines : Nat) (rest : List Char) : Lexed (Word × List Char) := do
      let (word, rest) ← takeWord fuel (line + lines) ends rest
      return (pieces ++ word, rest)
    match s with
    | [] => return ([], [])
    | '\'' :: rest =>
      match rest.span (· != '\'') with
      | (inner, _ :: rest) => more (.quotes :: inner.map (.char · true)) (inner.count '\n') rest
      | _ => throw .unclosedQuote
    | '"' :: rest => do
      let (inner, rest) ← (takeEnclosed fuel line .quotes rest).mapError fun
        | .unclosedBrace => .unclosedQuote
        | fault => fault
      more (quotedPieces inner) (linesBefore rest s) rest
    | '\\' :: '\n' :: rest => more [] 1 rest
    | '\\' :: c :: rest => more [.char c true] 0 rest
    | '$' :: rest => do
      let (piece, rest) ← takeParameter fuel line false rest
      more [piece] (linesBefore rest s) rest
    | '\x60' :: rest => do
      let some (text, rest) := takeBackquoted false rest | throw .unclosedBackquote
      more [.command 1 (String.ofList text) false] (linesBefore rest s) rest
    | c :: rest =>
      if ends c then return ([], s)
      else more [.char c false] (if c == '\n' then 1 else 0) rest

def takeEnclosed : (fuel line : Nat) → Enclosure → List Char → Lexed (Word × List Char)
  | 0, _, enclosure, _ => throw enclosure.unclosed
  | fuel + 1, line, enclosure, s =>
    let moreIn (enclosure : Enclosure) (pieces : Word) (lines : Nat) (rest : List Char) :
        Lexed (Word × List Char) := do
      let (word, rest) ← takeEnclosed fuel (line + lines) enclosure rest
      return (pieces ++ word, rest)
    let more := moreIn enclosure
    match s, enclosure with
    | [], .document => return ([], [])
    | [], _ => throw enclosure.unclosed
    | '"' :: rest, .quotes => return ([], rest)
    | '"' :: rest, .braces => more [] 0 rest
    | '\x7d' :: rest, .braces => return ([], rest)
    | '(' :: rest, .arithmetic depth => moreIn (.arithmetic (depth + 1)) [.char '(' true] 0 rest
    | ')' :: rest, .arithmetic (depth + 1) => moreIn (.arithmetic depth) [.char ')' true] 0 rest
    | ')' :: ')' :: rest, .arithmetic 0 => return ([], rest)
    | '\\' :: '\n' :: rest, _ => more [] 1 rest
    | '\\' :: c :: rest, _ =>
      if enclosure.protects c then more [.char c true] 0 rest
      else more [.char '\\' true] 0 (c :: rest)
    | '$' :: rest, _ => do
      let (piece, rest) ← takeParameter fuel line true rest
      more [piece] (linesBefore rest s) rest
    | '\x60' :: rest, _ => do
      let some (text, rest) := takeBackquoted (enclosure = .quotes) rest
        | throw .unclosedBackquote
      more [.command 1 (String.ofList text) true] (linesBefore rest s) rest
    | c :: rest, _ => more [.char c true] (if c == '\n' then 1 else 0) rest

def takeParameter : (fuel line : Nat) → (quoted : Bool) → List Char → Lexed (Piece × List Char)
  | 0, _, _, _ => throw .unclosedBrace
  | fuel + 1, line, quoted, '(' :: '(' :: rest => do
    let (expression, rest) ← takeEnclosed fuel line (.arithmetic 0) rest
    return (.arithmetic expression quoted, rest)
  | _ + 1, line, quoted, '(' :: rest => do
    let some after := afterCommand (rest.length + 1) [] true true rest
      | throw (.unexpected "end of file" (some "\")\""))
    let text := rest.take (rest.length - after.length - 1)
    return (.command line (String.ofList text) quoted, after)
  | fuel + 1, line, quoted, '\x7b' :: rest => takeBraced fuel line quoted rest
  | _ + 1, _, quoted, s =>
    match takeName false s with
    | some (name, rest) => return (.value name quoted none, rest)
    | none => return (.char '$' quoted, s)

def takeBraced : (fuel line : Nat) → (quoted : Bool) → List Char → Lexed (Piece × List Char)
  | 0, _, _, _ => throw .unclosedBrace
  | fuel + 1, line, quoted, s => do
    let bad : Lexed (Piece × List Char) := do
      let (_, rest) ← takeEnclosed fuel line .braces s
      return (.unfit, rest)
    match s with
    | '#' :: rest =>
      if let some (name, '\x7d' :: rest) := takeName true rest then
        return (.length name quoted, rest)
    | _ => pure ()
    match takeName true s with
    | none => bad
    | some (name, '\x7d' :: rest) => return (.value name quoted none, rest)
    | some (name, rest) =>
      match takeAdjustment rest with
      | none => bad
      | some (adjustment, rest) =>
        if quoted && !adjustment.isTrim then
          let (word, rest) ← takeEnclosed fuel line .braces rest
          return (.value name quoted (some (adjustment, word)), rest)
        else
          let (word, rest) ← takeWord fuel line (· == '\x7d') rest
          if rest = [] then throw .unclosedBrace
          return (.value name quoted (some (adjustment, word)), rest.tail)

end

/-! ## Documents -/

/-- A document that has been announced. -/
structure Announced where
  last : String
  /-- Whether it holds no parameters. -/
  verbatim : Bool
  untabbed : Bool
  deriving Repr

/-- The lines of a text up to one that ends them, as a text, and what follows. -/
def Announced.takeText (announced : Announced) : (fuel : Nat) → List Char → List Char × List Char
  | 0, s => ([], s)
  | _, [] => ([], [])
  | fuel + 1, s =>
    let (line, rest) := s.span (· != '\n')
    let line := if announced.untabbed then line.dropWhile (· == '\t') else line
    if String.ofList line = announced.last then ([], rest.tail)
    else
      let (text, after) := announced.takeText fuel rest.tail
      (line ++ rest.take 1 ++ text, after)

/-- The documents at the start of a line, and what follows them. -/
def takeDocuments : (line : Nat) → List Announced → List Char → Tokens × List Char
  | _, [], s => ([], s)
  | line, announced :: others, s =>
    let (text, rest) := announced.takeText (s.length + 1) s
    let token : Token :=
      if announced.verbatim then .document (text.map (.char · true))
      else
        match takeEnclosed (text.length + 2) line .document text with
        | .ok (word, _) => .document word
        | .error fault => .fault fault
    let used := s.take (s.length - rest.length)
    let (tokens, rest) := takeDocuments (line + used.count '\n') others rest
    ((token, line) :: tokens, rest)

/-! ## Scripts -/

/-- The operators, longer ones first. -/
def operators : List String := ["&&", "||", ";;", ";", "&", "|", "(", ")", "\n"]

/-- A redirection at the start of a text, after the number of its stream if there is one. -/
def takeRedirect (stream : Option Nat) : List Char → Option (Token × List Char)
  | '>' :: '>' :: rest => some (.redirect (stream.getD 1) .append, rest)
  | '>' :: '&' :: rest => some (.redirect (stream.getD 1) .copy, rest)
  | '>' :: '|' :: rest => some (.redirect (stream.getD 1) .overwrite, rest)
  | '>' :: rest => some (.redirect (stream.getD 1) .write, rest)
  | '<' :: '<' :: '-' :: rest => some (.redirect (stream.getD 0) (.document true), rest)
  | '<' :: '<' :: rest => some (.redirect (stream.getD 0) (.document false), rest)
  | '<' :: '&' :: rest => some (.redirect (stream.getD 0) .copy, rest)
  | '<' :: '>' :: rest => some (.redirect (stream.getD 0) .both, rest)
  | '<' :: rest => some (.redirect (stream.getD 0) .read, rest)
  | _ => none

def takeOperator (s : List Char) : Option (Token × List Char) :=
  let redirection := match s with
    | c :: rest => if c.isDigit then takeRedirect (some (c.toNat - '0'.toNat)) rest
      else takeRedirect none s
    | [] => none
  redirection.or
    ((operators.find? fun text => text.toList.isPrefixOf s).map fun text =>
      (.operator text, s.drop text.length))

/-- The tokens of a script, each document after the end of the line that announces it. `untabbed` is
known if the last token announces one. -/
def scan : (fuel line : Nat) → (untabbed : Option Bool) → List Announced → List Char → Tokens
  | 0, line, _, _, _ | _, line, _, _, [] => [(.ending, line)]
  | fuel + 1, line, untabbed, waiting, c :: rest =>
    if c == ' ' || c == '\t' then scan fuel line untabbed waiting rest
    else if c == '#' then scan fuel line untabbed waiting (rest.dropWhile (· != '\n'))
    else if c == '\\' && rest.head? == some '\n' then
      scan fuel (line + 1) untabbed waiting rest.tail
    else
      match takeOperator (c :: rest) with
      | some (.operator "\n", after) =>
        let (documents, after') := takeDocuments (line + 1) waiting after
        let used := after.take (after.length - after'.length)
        (.operator "\n", line) :: documents ++
          scan fuel (line + 1 + used.count '\n') none [] after'
      | some (token, after) =>
        let untabbed := match token with
          | .redirect _ (.document untabbed) => some untabbed
          | _ => none
        (token, line) :: scan fuel line untabbed waiting after
      | none =>
        match takeWord (2 * rest.length + 4) line endsWord (c :: rest) with
        | .error fault => [(.fault fault, line + (c :: rest).count '\n')]
        | .ok (word, after) =>
          let used := (c :: rest).take (rest.length + 1 - after.length)
          let waiting := match untabbed with
            | some untabbed => waiting ++ [⟨unquotedText word, hasQuotes word, untabbed⟩]
            | none => waiting
          (.word word, line) :: scan fuel (line + used.count '\n') none waiting after

def attach : Tokens → List Word → Tokens
  | (.redirect stream (.document untabbed), line) :: (.word _, _) :: rest, document :: documents =>
    (.redirect stream (.document untabbed), line) :: (.word document, line) ::
      attach rest documents
  | (.redirect stream (.document untabbed), line) :: (.word _, _) :: rest, [] =>
    (.redirect stream (.document untabbed), line) :: (.word [], line) :: attach rest []
  | (.document _, _) :: rest, documents => attach rest documents
  | token :: rest, documents => token :: attach rest documents
  | [], _ => []

/-- The tokens of a script whose text starts at a line. -/
def tokensOf (line : Nat) (text : String) : Tokens :=
  let found := scan (text.length + 1) line none [] text.toList
  attach found (found.filterMap fun
    | (.document word, _) => some word
    | _ => none)

end RackTraffic.Shell
