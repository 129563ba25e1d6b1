import RackTraffic.Disk.Basic
import RackTraffic.Shell.Arithmetic

/-!
# Conditions

A condition is a list of words, some of which are operators. What is an operator and what is an
operand depends on the words around it, so a condition is evaluated while it is read.

Only the machine for scripts (`Shell.host`) needs this module, and only `Main` and test runs need
the machine; no result is about it.
-/

namespace RackTraffic.Shell

/-- What a word of a condition may be. -/
inductive ConditionWord where
  | operand
  | unary
  | binary
  | not
  | and
  | or
  | opening
  | closing
  | missing
  deriving DecidableEq, Repr

def unaryConditions : List String :=
  ["-r", "-w", "-x", "-e", "-f", "-d", "-c", "-b", "-p", "-u", "-g", "-k", "-s", "-t", "-z", "-n",
    "-h", "-O", "-G", "-L", "-S"]

def binaryConditions : List String :=
  ["=", "!=", "<", ">", "-eq", "-ne", "-ge", "-gt", "-le", "-lt", "-nt", "-ot", "-ef"]

def conditionWord (word : String) : ConditionWord :=
  match word with
  | "!" => .not
  | "-a" => .and
  | "-o" => .or
  | "(" => .opening
  | ")" => .closing
  | _ =>
    if unaryConditions.contains word then .unary
    else if binaryConditions.contains word then .binary
    else .operand

/-- What the first of several words is. An operator without an operand is one itself. -/
def ConditionWord.ofWords : List String → ConditionWord
  | [] => .missing
  | word :: rest =>
    match conditionWord word, rest with
    | .unary, [] => .operand
    | .unary, [_] => .unary
    | .unary, next :: _ => if conditionWord next = .binary then .operand else .unary
    | .opening, [] => .operand
    | found, _ => found

def fileHas (d : Disk) (property path : String) : Bool :=
  let found := (d.find ⟨path⟩).toOption.map Prod.snd
  if path = "/dev/null" then ["-e", "-r", "-w", "-c"].contains property
  else
    match property, found with
    | _, none => false
    | "-f", some entry => entry.isFile
    | "-d", some entry => !entry.isFile
    | "-s", some (.file contents _) => contents.size != 0
    | "-x", some (.file _ executable) => executable
    | "-e", _ | "-r", _ | "-w", _ | "-O", _ | "-G", _ | "-s", _ | "-x", _ => true
    | _, _ => false

def conditionNumber (word : String) : Except String Int :=
  match numberOf? (some 10) word with
  | some n => return n
  | none => throw ("Illegal number: " ++ word)

def related (d : Disk) (a operator b : String) : Except String Bool := do
  match operator with
  | "=" => return a == b
  | "!=" => return a != b
  | "<" => return a < b
  | ">" => return b < a
  | "-nt" | "-ot" => return false
  | "-ef" => return match d.find ⟨a⟩, d.find ⟨b⟩ with
    | .ok (p, _), .ok (q, _) => p == q
    | _, _ => false
  | _ =>
    let m ← conditionNumber a
    let n ← conditionNumber b
    match operator with
    | "-eq" => return m = n
    | "-ne" => return m ≠ n
    | "-lt" => return m < n
    | "-le" => return m ≤ n
    | "-gt" => return n < m
    | _ => return n ≤ m

abbrev Judged := Except String (Bool × List String)

mutual

/-- Conditions of which one must hold. -/
def judgeEither : (fuel : Nat) → Disk → ConditionWord → List String → Judged
  | 0, _, _, ws => return (false, ws)
  | fuel + 1, d, kind, ws => do
    let (a, ws) ← judgeBoth fuel d kind ws
    if ConditionWord.ofWords ws.tail = .or then
      let (b, ws) ← judgeEither fuel d (.ofWords (ws.drop 2)) (ws.drop 2)
      return (a || b, ws)
    else return (a, ws)

def judgeBoth : (fuel : Nat) → Disk → ConditionWord → List String → Judged
  | 0, _, _, ws => return (false, ws)
  | fuel + 1, d, kind, ws => do
    let (a, ws) ← judgeNegated fuel d kind ws
    if ConditionWord.ofWords ws.tail = .and then
      let (b, ws) ← judgeBoth fuel d (.ofWords (ws.drop 2)) (ws.drop 2)
      return (a && b, ws)
    else return (a, ws)

def judgeNegated : (fuel : Nat) → Disk → ConditionWord → List String → Judged
  | 0, _, _, ws => return (false, ws)
  | fuel + 1, d, kind, ws => do
    if kind = .not then
      let kind := ConditionWord.ofWords ws.tail
      let (a, ws) ← judgeNegated fuel d kind (if kind = .missing then ws else ws.tail)
      return (!a, ws)
    else judgeSingle fuel d kind ws

def judgeSingle : (fuel : Nat) → Disk → ConditionWord → List String → Judged
  | 0, _, _, ws => return (false, ws)
  | fuel + 1, d, kind, ws => do
    let word := ws.head?.getD ""
    match kind with
    | .missing => return (false, ws)
    | .opening =>
      let ws := ws.tail
      let kind := ConditionWord.ofWords ws
      if kind = .closing then return (false, ws)
      let (a, ws) ← judgeEither fuel d kind ws
      if ConditionWord.ofWords ws.tail ≠ .closing then throw "closing paren expected"
      return (a, ws.tail)
    | .unary =>
      let some operand := ws.tail.head? | throw (word ++ ": argument expected")
      let holds := match word with
        | "-z" => operand.isEmpty
        | "-n" => !operand.isEmpty
        | "-t" => false
        | _ => fileHas d word operand
      return (holds, ws.tail)
    | _ =>
      if ConditionWord.ofWords ws.tail = .binary then
        let operator := ws.tail.head?.getD ""
        let some operand := (ws.drop 2).head? | throw (operator ++ ": argument expected")
        return (← related d word operator operand, ws.drop 2)
      else return (!word.isEmpty, ws)

end

def holds (d : Disk) (words : List String) : Except String Bool := do
  if words.isEmpty then return false
  let middleDecides := words.length = 3 && (words[1]?.map conditionWord) = some .binary
  let (negated, words) :=
    if words.length ≠ 3 && words.length ≠ 4 || middleDecides then (false, words)
    else if words.head? = some "(" && words.getLast? = some ")" then (false, words.tail.dropLast)
    else if words.head? = some "!" then (true, words.tail)
    else (false, words)
  let kind := if middleDecides then .operand else ConditionWord.ofWords words
  let (a, rest) ← judgeEither (4 * words.length + 8) d kind words
  match rest with
  | last :: _ :: _ =>
    throw (if last = "" then "unexpected operator" else last ++ ": unexpected operator")
  | _ => return a != negated

end RackTraffic.Shell
