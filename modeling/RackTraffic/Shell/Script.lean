import RackTraffic.Shell.Token

/-!
# Scripts of the shell

A script is read line by line. A *line* here is a list of commands that ends at a line feed outside
of all compound commands. If one of them is not well formed, the lines before it still stand.

A word is *reserved* if it stands where a command begins and is written without quotes.

Only the machine for scripts (`Shell.host`) needs this module, and only `Main` and test runs need
the machine; no result is about it.
-/

namespace RackTraffic.Shell

/-- A redirection of a stream. -/
structure Redirection where
  stream : Nat
  kind : Redirect
  target : Word
  deriving Repr

/-- An instruction of a script. -/
inductive Instruction where
  | nothing
  | simple (line : Nat) (assignments : List (String × Word)) (words : List Word)
    (redirections : List Redirection)
  | redirected (line : Nat) (redirections : List Redirection) (body : Instruction)
  | sequence (first second : Instruction)
  /-- The second one runs only if the first succeeds. -/
  | both (first second : Instruction)
  /-- The second one runs only if the first fails. -/
  | either (first second : Instruction)
  | negated (body : Instruction)
  | pipeline (members : List Instruction)
  | background (body : Instruction)
  | subshell (body : Instruction)
  | branch (condition yes no : Instruction)
  /-- Repeat the body while the condition succeeds, or until it does. -/
  | loop (untilDone : Bool) (condition body : Instruction)
  | forEach (line : Nat) (name : String) (words : Option (List Word)) (body : Instruction)
  | choose (line : Nat) (word : Word) (arms : List (List Word × Instruction))
  | define (name : String) (body : Instruction)

/-! ## Tokens one by one -/

def reservedWords : List String :=
  ["!", "case", "do", "done", "elif", "else", "esac", "fi", "for", "if", "in", "then", "until",
    "while", "\x7b", "\x7d"]

def reserved? : Tokens → Option String
  | (.word word, _) :: _ => (bareText? word).filter reservedWords.contains
  | _ => none

def operator? : Tokens → Option String
  | (.operator text, _) :: _ => some text
  | _ => none

abbrev Parsed := Except (Nat × SyntaxFault)

def shownName (name : String) : String := "\"" ++ name ++ "\""

def unexpected {α : Type} (ts : Tokens) (expected : Option String) : Parsed α :=
  let fault (line : Nat) (found : String) : Parsed α :=
    throw (line, .unexpected found expected)
  match ts with
  | [] => fault 0 "end of file"
  | (.ending, line) :: _ => fault line "end of file"
  | (.fault found, line) :: _ => throw (line, found)
  | (.operator "\n", line) :: _ => fault (line + 1) "newline"
  | (.operator text, line) :: _ => fault line (shownName text)
  | (.redirect .., line) :: _ => fault line "redirection"
  | (.document _, line) :: _ => fault line "word"
  | (.word _, line) :: _ => fault line ((reserved? ts).elim "word" shownName)

def expect (text : String) (ts : Tokens) : Parsed Tokens :=
  if reserved? ts = some text then return ts.tail else unexpected ts (shownName text)

def expectOperator (text : String) (ts : Tokens) : Parsed Tokens :=
  if operator? ts = some text then return ts.tail else unexpected ts (shownName text)

def skipLines : Tokens → Tokens
  | (.operator "\n", _) :: rest => skipLines rest
  | ts => ts

def takeWords : Tokens → List Word × Tokens
  | (.word word, _) :: rest =>
    let (words, rest) := takeWords rest
    (word :: words, rest)
  | ts => ([], ts)

def lineOf (ts : Tokens) : Nat := (ts.head?.map Prod.snd).getD 0

def endsList (ts : Tokens) : Bool :=
  ["then", "elif", "else", "fi", "do", "done", "esac", "\x7d"].any (reserved? ts == some ·) ||
    [")", ";;"].any (operator? ts == some ·)

/-! ## Simple commands -/

def assignment? (word : Word) : Option (String × Word) :=
  let isPlain : Piece → Bool
    | .char c false => isNameChar c
    | _ => false
  match word.span isPlain with
  | (name, .char '=' false :: value) => do
    let name ← bareText? name
    if isName name.toList then some (name, value) else none
  | _ => none

/-- The parts of a simple command: assignments, words and redirections. -/
structure SimpleParts where
  assignments : List (String × Word) := []
  words : List Word := []
  redirections : List Redirection := []

def takeParts : SimpleParts → Tokens → Parsed (SimpleParts × Tokens)
  | parts, (.word word, _) :: rest =>
    match if parts.words.isEmpty then assignment? word else none with
    | some pair => takeParts { parts with assignments := parts.assignments ++ [pair] } rest
    | none => takeParts { parts with words := parts.words ++ [word] } rest
  | parts, (.redirect stream kind, _) :: (.word target, _) :: rest =>
    let redirection : Redirection := ⟨stream, kind, target⟩
    takeParts { parts with redirections := parts.redirections ++ [redirection] } rest
  | _, (.redirect .., _) :: rest => unexpected rest none
  | _, ts@((.fault _, _) :: _) => unexpected ts none
  | parts, ts => return (parts, ts)

def takeSimple (ts : Tokens) : Parsed (Instruction × Tokens) := do
  let (parts, rest) ← takeParts {} ts
  return (.simple (lineOf ts) parts.assignments parts.words parts.redirections, rest)

def takeRedirections : Tokens → Parsed (List Redirection × Tokens)
  | (.redirect stream kind, _) :: (.word target, _) :: rest => do
    let (redirections, rest) ← takeRedirections rest
    return (⟨stream, kind, target⟩ :: redirections, rest)
  | (.redirect .., _) :: rest => unexpected rest none
  | ts => return ([], ts)

/-- An instruction with the redirections that follow it, if there are any. -/
def redirectedBy (line : Nat) (body : Instruction) (ts : Tokens) :
    Parsed (Instruction × Tokens) := do
  match ← takeRedirections ts with
  | ([], rest) => return (body, rest)
  | (redirections, rest) =>
    match body with
    | .subshell body => return (.subshell (.redirected line redirections body), rest)
    | body => return (.redirected line redirections body, rest)

def takePatterns : Tokens → Parsed (List Word × Tokens)
  | (.word word, _) :: rest =>
    match rest with
    | (.operator "|", _) :: rest => do
      let (words, rest) ← takePatterns rest
      return (word :: words, rest)
    | _ => do return ([word], ← expectOperator ")" rest)
  | ts => unexpected ts none

def specialBuiltins : List String :=
  [".", ":", "break", "continue", "eval", "exec", "exit", "export", "readonly", "return", "set",
    "shift", "times", "trap", "unset"]

/-! ## Compound commands -/

mutual

/-- A list of commands, which must not be empty unless `optional` says so. -/
def takeList : (fuel : Nat) → (optional : Bool) → Tokens → Parsed (Instruction × Tokens)
  | 0, _, ts => unexpected ts none
  | fuel + 1, optional, ts => do
    let ts := skipLines ts
    if let (.ending, _) :: _ := ts then return (.nothing, ts)
    if optional && endsList ts then return (.nothing, ts)
    let (first, ts) ← takeJoined fuel ts
    match operator? ts with
    | some "&" => do
      let (second, rest) ← takeList fuel true ts.tail
      return (.sequence (.background first) second, rest)
    | some ";" | some "\n" => do
      let (second, rest) ← takeList fuel true ts.tail
      return (.sequence first second, rest)
    | _ => return (first, ts)

def takeLine : (fuel : Nat) → Tokens → Parsed (Instruction × Tokens)
  | 0, ts => unexpected ts none
  | fuel + 1, ts => do
    if let (.ending, _) :: _ := ts then return (.nothing, ts)
    if operator? ts = some "\n" then return (.nothing, ts.tail)
    let (first, ts) ← takeJoined fuel ts
    match ts with
    | (.operator "&", _) :: rest => do
      let (second, rest) ← takeLine fuel rest
      return (.sequence (.background first) second, rest)
    | (.operator ";", _) :: rest => do
      let (second, rest) ← takeLine fuel rest
      return (.sequence first second, rest)
    | (.operator "\n", _) :: rest => return (first, rest)
    | (.ending, _) :: _ => return (first, ts)
    | _ => unexpected ts none

def takeJoined : (fuel : Nat) → Tokens → Parsed (Instruction × Tokens)
  | 0, ts => unexpected ts none
  | fuel + 1, ts => do
    let (first, ts) ← takePipeline fuel ts
    takeJoinedAfter fuel first ts

def takeJoinedAfter : (fuel : Nat) → Instruction → Tokens → Parsed (Instruction × Tokens)
  | 0, _, ts => unexpected ts none
  | fuel + 1, first, ts => do
    match operator? ts with
    | some "&&" => do
      let (second, rest) ← takePipeline fuel (skipLines ts.tail)
      takeJoinedAfter fuel (.both first second) rest
    | some "||" => do
      let (second, rest) ← takePipeline fuel (skipLines ts.tail)
      takeJoinedAfter fuel (.either first second) rest
    | _ => return (first, ts)

/-- A pipeline, perhaps with its status negated. -/
def takePipeline : (fuel : Nat) → Tokens → Parsed (Instruction × Tokens)
  | 0, ts => unexpected ts none
  | fuel + 1, ts => do
    let negated := reserved? ts == some "!"
    let (members, rest) ← takeMembers fuel (if negated then ts.tail else ts)
    let body : Instruction := match members with
      | [body] => body
      | members => .pipeline members
    return (if negated then .negated body else body, rest)

def takeMembers : (fuel : Nat) → Tokens → Parsed (List Instruction × Tokens)
  | 0, ts => unexpected ts none
  | fuel + 1, ts => do
    let (first, rest) ← takeCommand fuel ts
    if operator? rest = some "|" then
      let (others, rest) ← takeMembers fuel (skipLines rest.tail)
      return (first :: others, rest)
    else return ([first], rest)

def takeCommand : (fuel : Nat) → Tokens → Parsed (Instruction × Tokens)
  | 0, ts => unexpected ts none
  | fuel + 1, ts => do
    let compound (found : Instruction × Tokens) : Parsed (Instruction × Tokens) :=
      redirectedBy (lineOf ts) found.1 found.2
    match reserved? ts with
    | some "\x7b" =>
      let (body, rest) ← takeList fuel false ts.tail
      compound (body, ← expect "\x7d" rest)
    | some "if" => compound (← takeBranch fuel ts.tail)
    | some "while" => compound (← takeLoop fuel false ts.tail)
    | some "until" => compound (← takeLoop fuel true ts.tail)
    | some "for" => compound (← takeFor fuel ts.tail)
    | some "case" => compound (← takeChoice fuel (lineOf ts) ts.tail)
    | some _ => unexpected ts none
    | none =>
      match ts with
      | (.operator "(", _) :: rest =>
        let (body, rest) ← takeList fuel false rest
        compound (.subshell body, ← expectOperator ")" rest)
      | (.word word, line) :: (.operator "(", _) :: rest =>
        if (assignment? word).isSome then takeSimple ts
        else
          let rest ← expectOperator ")" rest
          let name := (bareText? word).getD ""
          if !isName name.toList || specialBuiltins.contains name then
            throw (line, .badFunctionName)
          let (body, rest) ← takeCommand fuel (skipLines rest)
          return (.define name body, rest)
      | (.word _, _) :: _ | (.redirect .., _) :: _ => takeSimple ts
      | _ => unexpected ts none

def takeBranch : (fuel : Nat) → Tokens → Parsed (Instruction × Tokens)
  | 0, ts => unexpected ts none
  | fuel + 1, ts => do
    let (condition, rest) ← takeList fuel false ts
    let (yes, rest) ← takeList fuel false (← expect "then" rest)
    match reserved? rest with
    | some "elif" => do
      let (no, rest) ← takeBranch fuel rest.tail
      return (.branch condition yes no, rest)
    | some "else" => do
      let (no, rest) ← takeList fuel false rest.tail
      return (.branch condition yes no, ← expect "fi" rest)
    | _ => return (.branch condition yes .nothing, ← expect "fi" rest)

def takeLoop : (fuel : Nat) → (untilDone : Bool) → Tokens → Parsed (Instruction × Tokens)
  | 0, _, ts => unexpected ts none
  | fuel + 1, untilDone, ts => do
    let (condition, rest) ← takeList fuel false ts
    let (body, rest) ← takeList fuel false (← expect "do" rest)
    return (.loop untilDone condition body, ← expect "done" rest)

def takeFor : (fuel : Nat) → Tokens → Parsed (Instruction × Tokens)
  | 0, ts => unexpected ts none
  | fuel + 1, ts => do
    let name := match ts with
      | (.word word, _) :: _ => (bareText? word).getD ""
      | _ => ""
    if !isName name.toList then throw (lineOf ts, .badLoopVariable)
    let rest := skipLines ts.tail
    let (words, rest) ← show Parsed (Option (List Word) × Tokens) from
      if reserved? rest = some "in" then
        let (words, rest) := takeWords rest.tail
        match operator? rest with
        | some ";" | some "\n" => return (some words, rest.tail)
        | _ => unexpected rest none
      else if operator? rest = some ";" then return (none, rest.tail)
      else return (none, rest)
    let (body, rest) ← takeList fuel false (← expect "do" (skipLines rest))
    return (.forEach (lineOf ts) name words body, ← expect "done" rest)

def takeChoice : (fuel line : Nat) → Tokens → Parsed (Instruction × Tokens)
  | 0, _, ts => unexpected ts none
  | fuel + 1, line, ts => do
    let (.word word, _) :: rest := ts | unexpected ts (some "word")
    let (arms, rest) ← takeArms fuel (skipLines (← expect "in" (skipLines rest)))
    return (.choose line word arms, rest)

def takeArms : (fuel : Nat) → Tokens → Parsed (List (List Word × Instruction) × Tokens)
  | 0, ts => unexpected ts none
  | fuel + 1, ts => do
    if reserved? ts = some "esac" then return ([], ts.tail)
    let ts := if operator? ts = some "(" then ts.tail else ts
    let (patterns, rest) ← takePatterns ts
    let (body, rest) ← takeList fuel true rest
    let rest := skipLines rest
    if reserved? rest = some "esac" then return ([(patterns, body)], rest.tail)
    let (arms, rest) ← takeArms fuel (skipLines (← expectOperator ";;" rest))
    return ((patterns, body) :: arms, rest)

end

/-! ## Whole scripts -/

/-- A script: its lines up to the first that is not well formed, and what is wrong with that one. -/
structure Script where
  lines : List Instruction
  fault : Option (Nat × SyntaxFault)

/-- The script that tokens stand for. `fuel` bounds the number of lines. -/
def Script.ofTokens : (fuel : Nat) → Tokens → Script
  | 0, _ | _, [] => ⟨[], none⟩
  | _, (.ending, _) :: _ => ⟨[], none⟩
  | fuel + 1, ts =>
    match takeLine (8 * ts.length + 8) ts with
    | .error fault => ⟨[], some fault⟩
    | .ok (line, rest) =>
      let script := Script.ofTokens fuel rest
      { script with lines := line :: script.lines }

def Script.ofText (line : Nat) (text : String) : Script :=
  let ts := tokensOf line text
  .ofTokens (ts.length + 1) ts

end RackTraffic.Shell
