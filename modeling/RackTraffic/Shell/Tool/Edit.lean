import RackTraffic.Shell.Regex

/-!
# Editing lines

An edit is a list of commands that is carried out for every line of a text. Each command says which
lines it is for: one with a number, the last one, those that match, or all from one to another. The
line stands in a *space*, which the commands change and which is printed at the end; a second space
holds text for later.

Only the machine for scripts (`Shell.host`) needs this module, and only `Main` and test runs need
the machine; no result is about it.
-/

namespace RackTraffic.Shell

/-- A line that a command is for. -/
inductive Address where
  | line (n : Nat)
  | last
  /-- A line that matches; without an expression the one that was used last. -/
  | matching (r : Option Regex) (fold : Bool)
  /-- Every so many lines from one on. -/
  | every (first step : Nat)
  /-- So many lines after the first one of a range. -/
  | after (n : Nat)
  deriving Repr

/-- A part of what a matching text is replaced by. -/
inductive Replacement where
  | char (c : Char)
  | group (number : Nat)
  /-- From here on letters are made large, small or left alone; or only the next one is. -/
  | casing (c : Char)
  deriving DecidableEq, Repr

/-- How a substitution is done. -/
structure SubstitutionFlags where
  everywhere : Bool := false
  /-- The first match that is replaced. -/
  number : Nat := 1
  print : Bool := false
  fold : Bool := false
  deriving Repr

/-- What a command does. -/
inductive EditAction where
  | block
  | closing
  | label (name : String)
  | substitute (r : Option Regex) (replacement : List Replacement) (flags : SubstitutionFlags)
  | translate (pairs : List (Char × Char))
  | delete
  | deleteFirst
  | print
  | printFirst
  | lineNumber
  | next
  | appendNext
  | hold (keep : Bool)
  | get (keep : Bool)
  | exchange
  | clear
  | quit (status : UInt8) (silent : Bool)
  | insert (text : List Char)
  | append (text : List Char)
  | change (text : List Char)
  | jump (onlyAfter : Option Bool) (name : String)
  deriving Repr

/-- A command of an edit. -/
structure EditCommand where
  first : Option Address := none
  second : Option Address := none
  negated : Bool := false
  action : EditAction
  deriving Repr

/-! ## Reading -/

/-- What is wrong with the text of an edit. -/
structure EditFault where
  left : Nat
  reason : String
  deriving Repr

abbrev EditRead := Except EditFault

def editFault {α : Type} (rest : List Char) (reason : String) : EditRead α :=
  throw ⟨rest.length, reason⟩

/-- A text up to a delimiter, in which a backslash takes the meaning from it. In brackets it has
none. -/
def takeDelimited (delimiter : Char) : (bracket : Bool) → List Char → Option (List Char × List Char)
  | _, [] => none
  | bracket, '\\' :: c :: rest => do
    let (text, rest) ← takeDelimited delimiter bracket rest
    if c == delimiter then return (c :: text, rest)
    else if c == 'n' && !bracket then return ('\\' :: 'n' :: text, rest)
    else return ('\\' :: c :: text, rest)
  | bracket, c :: rest =>
    if c == delimiter && !bracket then some ([], rest)
    else
      let bracket := if bracket then c != ']' else c == '['
      (takeDelimited delimiter bracket rest).map fun (text, rest) => (c :: text, rest)

/-- An expression of an edit. An empty one stands for the last one used. -/
def editRegex? (extended : Bool) (text : List Char) : Option (Option Regex) :=
  if text.isEmpty then some none else (Regex.ofText? extended text).map some

def numberIn (digits : List Char) : Nat :=
  digits.foldl (fun n c => 10 * n + (c.toNat - '0'.toNat)) 0

/-- An address, if there is one. -/
def takeAddress (extended : Bool) (s : List Char) : EditRead (Option Address × List Char) := do
  let expression (delimiter : Char) (rest : List Char) :
      EditRead (Option Address × List Char) := do
    let some (text, rest) := takeDelimited delimiter false rest
      | editFault [] "unterminated address regex"
    let some r := editRegex? extended text | editFault rest "Invalid regular expression"
    match rest with
    | 'I' :: rest => return (some (.matching r true), rest)
    | _ => return (some (.matching r false), rest)
  match s with
  | '$' :: rest => return (some .last, rest)
  | '/' :: rest => expression '/' rest
  | '\\' :: delimiter :: rest => expression delimiter rest
  | _ =>
    match s.span Char.isDigit with
    | ([], _) => return (none, s)
    | (digits, '~' :: rest) =>
      let (step, rest) := rest.span Char.isDigit
      return (some (.every (numberIn digits) (numberIn step)), rest)
    | (digits, rest) => return (some (.line (numberIn digits)), rest)

/-- The second address of a range, if there is one. -/
def takeSecond (extended : Bool) (s : List Char) : EditRead (Option Address × List Char) := do
  match s with
  | ',' :: rest =>
    match rest.dropWhile (· == ' ') with
    | '+' :: rest =>
      let (digits, rest) := rest.span Char.isDigit
      return (some (.after (numberIn digits)), rest)
    | rest =>
      let (address, rest) ← takeAddress extended rest
      if address.isNone then editFault rest "unexpected \x60,'"
      return (address, rest)
  | _ => return (none, s)

/-- What a letter after a backslash stands for. Any other character stands for itself. -/
def escaped : Char → Char
  | 'a' => '\x07'
  | 'f' => '\x0c'
  | 'n' => '\n'
  | 'r' => '\r'
  | 't' => '\t'
  | 'v' => '\x0b'
  | c => c

def replacementOf : List Char → List Replacement
  | '\\' :: c :: rest =>
    if c.isDigit then .group (c.toNat - '0'.toNat) :: replacementOf rest
    else if ['U', 'L', 'E', 'u', 'l'].contains c then .casing c :: replacementOf rest
    else .char (escaped c) :: replacementOf rest
  | '&' :: rest => .group 0 :: replacementOf rest
  | c :: rest => .char c :: replacementOf rest
  | [] => []

def takeFlags : (fuel : Nat) → SubstitutionFlags → List Char →
    EditRead (SubstitutionFlags × List Char)
  | 0, flags, s => return (flags, s)
  | fuel + 1, flags, s => do
    match s with
    | 'g' :: rest => takeFlags fuel { flags with everywhere := true } rest
    | 'p' :: rest => takeFlags fuel { flags with print := true } rest
    | 'I' :: rest | 'i' :: rest => takeFlags fuel { flags with fold := true } rest
    | c :: rest =>
      if c.isDigit then
        let (digits, rest) := s.span Char.isDigit
        takeFlags fuel { flags with number := numberIn digits } rest
      else if [';', '\n', '\x7d', '#', ' '].contains c then return (flags, s)
      else editFault rest "unknown option to \x60s'"
    | [] => return (flags, [])

def takeInserted (s : List Char) : List Char × List Char :=
  let s := s.dropWhile (· == ' ')
  let s := match s with
    | '\\' :: rest =>
      match rest.dropWhile (· == ' ') with
      | '\n' :: after => after
      | _ => rest
    | s => s
  line s
where
  line : List Char → List Char × List Char
    | '\\' :: c :: rest =>
      let (text, after) := line rest
      (escaped c :: text, after)
    | '\n' :: rest => (['\n'], rest)
    | c :: rest =>
      let (text, after) := line rest
      (c :: text, after)
    | [] => (['\n'], [])

def takeLabel (s : List Char) : String × List Char :=
  let (name, rest) := (s.dropWhile (· == ' ')).span fun c => c != '\n' && c != ';'
  (String.ofList name, rest)

def takeAction (extended : Bool) (letter : Char) (rest : List Char) :
    EditRead (EditAction × List Char) := do
  let simple (action : EditAction) : EditRead (EditAction × List Char) := return (action, rest)
  match letter with
  | '\x7b' => simple .block
  | '\x7d' => simple .closing
  | 'd' => simple .delete
  | 'D' => simple .deleteFirst
  | 'p' => simple .print
  | 'P' => simple .printFirst
  | '=' => simple .lineNumber
  | 'n' => simple .next
  | 'N' => simple .appendNext
  | 'h' => simple (.hold false)
  | 'H' => simple (.hold true)
  | 'g' => simple (.get false)
  | 'G' => simple (.get true)
  | 'x' => simple .exchange
  | 'z' => simple .clear
  | 'q' | 'Q' =>
    let (digits, after) := (rest.dropWhile (· == ' ')).span Char.isDigit
    return (.quit (numberIn digits).toUInt8 (letter == 'Q'), after)
  | 'i' | 'a' | 'c' =>
    let (text, after) := takeInserted rest
    if rest.all (· == ' ') then editFault [] "expected \\ after \x60a', \x60c' or \x60i'"
    return (match letter with
      | 'i' => .insert text
      | 'a' => .append text
      | _ => .change text, after)
  | ':' =>
    let (name, after) := takeLabel rest
    return (.label name, after)
  | 'b' | 't' | 'T' =>
    let (name, after) := takeLabel rest
    let onlyAfter := match letter with
      | 'b' => none
      | c => some (c == 't')
    return (.jump onlyAfter name, after)
  | 's' =>
    let unclosed {α : Type} : EditRead α := editFault [] "unterminated \x60s' command"
    let delimiter :: rest := rest | unclosed
    let some (pattern, rest) := takeDelimited delimiter false rest | unclosed
    let some (replacement, rest) := takeReplacement delimiter rest | unclosed
    let (flags, rest) ← takeFlags (rest.length + 1) {} rest
    let some r := editRegex? extended pattern | editFault rest "Invalid regular expression"
    return (.substitute r (replacementOf replacement) flags, rest)
  | 'y' =>
    let unclosed {α : Type} : EditRead α := editFault [] "unterminated \x60y' command"
    let delimiter :: rest := rest | unclosed
    let some (source, rest) := takeDelimited delimiter false rest | unclosed
    let some (target, rest) := takeDelimited delimiter false rest | unclosed
    let chars (s : List Char) : List Char := (replacementOf s).filterMap fun
      | .char c => some c
      | .group 0 => some '&'
      | _ => none
    if (chars source).length ≠ (chars target).length then
      editFault rest "strings for \x60y' command are different lengths"
    return (.translate ((chars source).zip (chars target)), rest)
  | c => editFault rest ("unknown command: \x60" ++ c.toString ++ "'")
where
  takeReplacement (delimiter : Char) : List Char → Option (List Char × List Char)
    | [] => none
    | '\\' :: c :: rest => do
      let (text, rest) ← takeReplacement delimiter rest
      return (if c == delimiter && c != '&' then c :: text else '\\' :: c :: text, rest)
    | c :: rest =>
      if c == delimiter then some ([], rest)
      else (takeReplacement delimiter rest).map fun (text, rest) => (c :: text, rest)

/-- The commands of an edit. `fuel` bounds their number. -/
def takeEdit (extended : Bool) : (fuel : Nat) → List Char → EditRead (List EditCommand)
  | 0, _ => return []
  | fuel + 1, s => do
    let s := s.dropWhile fun c => c == ' ' || c == '\t' || c == '\n' || c == ';'
    match s with
    | [] => return []
    | '#' :: rest => takeEdit extended fuel (rest.dropWhile (· != '\n'))
    | _ =>
      let (first, rest) ← takeAddress extended s
      let (second, rest) ← takeSecond extended (rest.dropWhile (· == ' '))
      let rest := rest.dropWhile (· == ' ')
      let negated := rest.head? == some '!'
      let rest := (if negated then rest.tail else rest).dropWhile (· == ' ')
      let letter :: rest := rest | editFault [] "missing command"
      let (action, rest) ← takeAction extended letter rest
      return { first, second, negated, action } :: (← takeEdit extended fuel rest)

/-! ## Carrying out -/

/-- The state of an edit. -/
structure Editing where
  space : List Char := []
  held : List Char := []
  number : Nat := 0
  coming : List (List Char × Bool)
  ended : Bool := true
  printed : List (List Char) := []
  /-- What is printed after the line. -/
  later : List (List Char) := []
  /-- The ranges that have begun, by the places of their commands, with their last lines. -/
  ranges : List (Nat × Option Nat) := []
  used : Option Regex := none
  substituted : Bool := false
  status : Option UInt8 := none

namespace Editing

def print (e : Editing) (text : List Char) : Editing := { e with printed := text :: e.printed }

/-- Print a line. The last one ends as it did. -/
def printLine (e : Editing) (text : List Char) : Editing :=
  e.print (if e.ended then text ++ ['\n'] else text)

def finds (e : Editing) (r : Option Regex) (fold : Bool) : Bool :=
  match r.or e.used with
  | none => false
  | some r => (r.find? fold e.space.toArray 0).isSome

def isAt (e : Editing) : Address → Bool
  | .line n => e.number == n
  | .last => e.coming.isEmpty
  | .matching r fold => e.finds r fold
  | .every first step =>
    if step = 0 then e.number == first else first ≤ e.number && (e.number - first) % step == 0
  | .after _ => false

def remember (e : Editing) : Option Address → Editing
  | some (.matching (some r) _) => { e with used := some r }
  | _ => e

def selects (e : Editing) (place : Nat) (c : EditCommand) : Bool × Editing :=
  let e := (e.remember c.first).remember c.second
  let close (e : Editing) : Editing :=
    { e with ranges := e.ranges.filter (·.1 != place) }
  let start (last : Option Nat) : Editing :=
    { close e with ranges := (place, last) :: (close e).ranges }
  match c.first, c.second with
  | none, _ => (true, e)
  | some first, none => (e.isAt first, e)
  | some first, some second =>
    match e.ranges.lookup place with
    | some (some last) => (e.number ≤ last, if last ≤ e.number then close e else e)
    | some none => (true, if e.isAt second then close e else e)
    | none =>
      let zero := match first, second with
        | .line 0, .matching .. => e.number == 1
        | _, _ => false
      if zero then (true, if e.isAt second then e else start none)
      else if !e.isAt first then (false, e)
      else
        match second with
        | .line n => (true, if n ≤ e.number then e else start (some n))
        | .after n => (true, if n = 0 then e else start (some (e.number + n)))
        | _ => (true, start none)

def cased (mode : Char) (c : Char) : Char :=
  if mode == 'U' || mode == 'u' then c.toUpper
  else if mode == 'L' || mode == 'l' then c.toLower
  else c

/-- Characters in the cases that are asked for: the first one may have a case of its own. -/
def recase (mode once : Char) : List Char → List Char
  | [] => []
  | c :: rest => cased (if once == 'E' then mode else once) c :: rest.map (cased mode)

def replaced (text : Array Char) (found : Regex.Found) : (mode once : Char) → List Replacement →
    List Char
  | _, _, [] => []
  | mode, _, .casing c :: rest =>
    if c == 'u' || c == 'l' then replaced text found mode c rest
    else replaced text found c 'E' rest
  | mode, once, .char c :: rest => recase mode once [c] ++ replaced text found mode 'E' rest
  | mode, once, .group number :: rest =>
    let (first, last) := if number = 0 then (found.first, found.last)
      else (found.groups.lookup number).getD (0, 0)
    let part := (text.extract first last).toList
    recase mode once part ++ replaced text found mode (if part.isEmpty then once else 'E') rest

/-- Replace the matches from a place on, and tell whether there is one to replace. `last` is where
the match before ended. -/
def substitute (r : Regex) (replacement : List Replacement) (flags : SubstitutionFlags)
    (text : Array Char) : (fuel place count : Nat) → (last : Option Nat) → List Char × Bool
  | 0, place, _, _ => ((text.extract place text.size).toList, false)
  | fuel + 1, place, count, last =>
    match r.find? flags.fold text place with
    | none => ((text.extract place text.size).toList, false)
    | some found =>
      let before := (text.extract place found.first).toList
      let next := (text.extract found.last (found.last + 1)).toList
      let isEmpty := found.first == found.last
      if isEmpty && last == some found.first then
        if text.size ≤ found.last then (before, false)
        else
          let (rest, done) := substitute r replacement flags text fuel (found.last + 1) count none
          (before ++ next ++ rest, done)
      else
        let chosen := flags.number ≤ count + 1
        let own := if chosen then replaced text found 'E' 'E' replacement
          else (text.extract found.first found.last).toList
        if chosen && !flags.everywhere then
          (before ++ own ++ (text.extract found.last text.size).toList, true)
        else
          let (rest, done) :=
            substitute r replacement flags text fuel found.last (count + 1) (some found.last)
          (before ++ own ++ rest, done || chosen)

def flush (e : Editing) : Editing :=
  { e with printed := e.later.reverse ++ e.printed, later := [] }

/-- Take the next line into the space, after what `f` makes of it. -/
def advance (e : Editing) (f : List Char → List Char) : Option Editing :=
  match e.coming with
  | [] => none
  | (line, ended) :: coming =>
    let e := e.flush
    some { e with space := f line, ended, coming, number := e.number + 1 }

/-- Where to go on in the commands. -/
inductive Way where
  | further
  | to (place : Nat)
  /-- The line is done; it is printed or not. -/
  | lineEnd (print : Bool)
  | restart

def blockEnd (commands : Array EditCommand) : (fuel place depth : Nat) → Nat
  | 0, place, _ => place
  | fuel + 1, place, depth =>
    match commands[place]?.map EditCommand.action with
    | none => place
    | some .block => blockEnd commands fuel (place + 1) (depth + 1)
    | some .closing =>
      if depth ≤ 1 then place + 1 else blockEnd commands fuel (place + 1) (depth - 1)
    | _ => blockEnd commands fuel (place + 1) depth

def firstLine (s : List Char) : List Char := s.takeWhile (· != '\n')

def act (commands : Array EditCommand) (quiet : Bool) (e : Editing) (place : Nat)
    (c : EditCommand) : Editing × Way :=
  match c.action with
  | .block | .closing | .label _ => (e, .further)
  | .delete => (e, .lineEnd false)
  | .deleteFirst =>
    if e.space.contains '\n' then
      ({ e with space := (e.space.dropWhile (· != '\n')).tail }, .restart)
    else (e, .lineEnd false)
  | .print => (e.printLine e.space, .further)
  | .printFirst => (e.print (firstLine e.space ++ ['\n']), .further)
  | .lineNumber => (e.print ((Nat.toDigits 10 e.number) ++ ['\n']), .further)
  | .next =>
    match e.coming with
    | [] => ({ e with status := some 0 }, .lineEnd true)
    | _ =>
      let e := if quiet then e else e.printLine e.space
      ((e.advance id).getD e, .further)
  | .appendNext =>
    match e.advance (e.space ++ '\n' :: ·) with
    | none => ({ e with status := some 0 }, .lineEnd true)
    | some e => (e, .further)
  | .hold keep =>
    ({ e with held := if keep then e.held ++ '\n' :: e.space else e.space }, .further)
  | .get keep =>
    ({ e with space := if keep then e.space ++ '\n' :: e.held else e.held }, .further)
  | .exchange => ({ e with space := e.held, held := e.space }, .further)
  | .clear => ({ e with space := [] }, .further)
  | .quit status silent => ({ e with status := some status }, .lineEnd !silent)
  | .insert text => (e.print text, .further)
  | .append text => ({ e with later := e.later ++ [text] }, .further)
  | .change text =>
    let inRange := c.second.isSome && !c.negated && (e.ranges.lookup place).isSome
    (if inRange then e else e.print text, .lineEnd false)
  | .translate pairs =>
    ({ e with space := e.space.map fun c => (pairs.lookup c).getD c }, .further)
  | .jump onlyAfter name =>
    let go := onlyAfter.all (· == e.substituted)
    let e := if onlyAfter.isSome then { e with substituted := false } else e
    if !go then (e, .further)
    else if name = "" then (e, .to commands.size)
    else
      let isTarget (c : EditCommand) : Bool := match c.action with
        | .label found => found == name
        | _ => false
      (e, .to ((commands.findIdx? isTarget).getD commands.size))
  | .substitute r replacement flags =>
    match r.or e.used with
    | none => (e, .further)
    | some r =>
      let e := { e with used := some r }
      let text := e.space.toArray
      let (space, done) := substitute r replacement flags text (2 * text.size + 2) 0 0 none
      if done then
        let e := { e with space, substituted := true }
        (if flags.print then e.printLine space else e, .further)
      else (e, .further)

def runFrom (commands : Array EditCommand) (quiet : Bool) : (fuel : Nat) → Editing → (place : Nat) →
    Editing × Way
  | 0, e, _ => (e, .lineEnd true)
  | fuel + 1, e, place =>
    match commands[place]? with
    | none => (e, .lineEnd true)
    | some c =>
      let (selected, e) := e.selects place c
      if selected == c.negated then
        match c.action with
        | .block => runFrom commands quiet fuel e (blockEnd commands (commands.size + 1) place 0)
        | _ => runFrom commands quiet fuel e (place + 1)
      else
        match e.act commands quiet place c with
        | (e, .further) => runFrom commands quiet fuel e (place + 1)
        | (e, .to place) => runFrom commands quiet fuel e place
        | (e, way) => (e, way)

/-- Carry out the commands for all lines. With `quiet` the space is not printed at the end. `stay`
says that the space already holds what is to be edited. -/
def runAll (commands : Array EditCommand) (quiet : Bool) : (fuel : Nat) → (stay : Bool) → Editing →
    Editing
  | 0, _, e => e
  | fuel + 1, stay, e =>
    match if stay then some e else e.advance id with
    | none => e
    | some e =>
      let (e, way) := runFrom commands quiet (10000 + 100 * commands.size)
        { e with substituted := false } 0
      let print := match way with
        | .lineEnd print => print && !quiet
        | _ => false
      let e := (if print then e.printLine e.space else e).flush
      if e.status.isSome then e
      else
        match way with
        | .restart => runAll commands quiet fuel true e
        | _ => runAll commands quiet fuel false e

end Editing

def endedLines (s : List Char) : List (List Char × Bool) :=
  match s.splitOn '\n' with
  | [] => []
  | pieces =>
    let whole := pieces.dropLast.map (·, true)
    match pieces.getLast? with
    | some [] | none => whole
    | some last => whole ++ [(last, false)]

def edited (commands : List EditCommand) (quiet : Bool) (s : List Char) : List Char × UInt8 :=
  let lines := endedLines s
  let e : Editing := { coming := lines }
  let e := e.runAll commands.toArray quiet (s.length + lines.length + 2) false
  (e.printed.reverse.flatten, e.status.getD 0)

end RackTraffic.Shell
