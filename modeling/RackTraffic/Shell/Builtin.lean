import RackTraffic.Shell.Field
import RackTraffic.Shell.Program
import RackTraffic.Shell.Signal

/-!
# Commands of the shell

The commands that are part of the shell and do not run other commands. What goes wrong in one of
them is said under its name; if it is one of the special ones, the script ends then.

Only the machine for scripts (`Shell.host`) needs this module, and only `Main` and test runs need
the machine; no result is about it.
-/

namespace RackTraffic.Shell

open Effect

abbrev Builtin := List String → Effect Unit

def singleQuoted (text : String) : String :=
  "'" ++ "'\"'\"'".intercalate (text.splitOn "'") ++ "'"

/-- The number that a word of digits stands for; if it is not one, the script ends. -/
def numberWord (word : String) : Effect Nat := do
  if word ≠ "" && word.toList.all Char.isDigit then return numberIn word.toList
  abort ("Illegal number: " ++ word)

/-- Read letters of options at the start of words; two dashes end them. -/
def takeLetters (known : List Char) : List String → Effect (List Char × List String)
  | [] => return ([], [])
  | word :: rest => do
    match word.toList with
    | ['-', '-'] => return ([], rest)
    | '-' :: c :: cs =>
      if let some bad := (c :: cs).find? (!known.contains ·) then
        abort ("Illegal option -" ++ bad.toString)
      let (letters, rest) ← takeLetters known rest
      return (c :: cs ++ letters, rest)
    | _ => return ([], word :: rest)

/-! ## Output and conditions -/

def emit (bytes : ByteArray) (status : UInt8) : Effect Unit := do
  if bytes.size = 0 || (← tryWrite 1 bytes) then done status
  else fail ((← get).command.getD "" ++ ": I/O error") 1

def echo : Builtin := fun words => emit (echoed .builtin words) 0

def printf : Builtin := fun words => do
  let dashed := words.head?.any fun word => word.startsWith "-" && word.length > 1
  match if words.head? = some "--" then words.tail else words with
  | [] => fail "usage: printf format [arg ...]" 2
  | format :: arguments =>
    if dashed && format != "--" && words.head? ≠ some "--" then
      fail ("Illegal option -" ++ ((format.drop 1).take 1).toString) 2
    else
      let p := Printing.ofFormat .builtin format arguments
      for (_, complaint) in p.complaints do complain complaint
      emit p.bytes (if p.broken then 2 else if p.complaints.isEmpty then 0 else 1)

def test (bracket : Bool) : Builtin := fun words => do
  if bracket && words.getLast? ≠ some "]" then fail "missing ]" 2
  else
    match holds (← get).disk (if bracket then words.dropLast else words) with
    | .ok b => done (if b then 0 else 1)
    | .error reason => fail reason 2

/-! ## Directories -/

def cd : Builtin := fun words => do
  let words := words.dropWhile fun word => word = "-L" || word = "-P" || word = "--"
  let s ← get
  let back := words.head? = some "-"
  let target := if back then (s.text? "OLDPWD").getD ""
    else words.head?.getD ((s.text? "HOME").getD "")
  let old := Disk.pathTo s.disk.current
  match if target = "" then .ok (s.disk.current, .directory) else s.disk.find ⟨target⟩ with
  | .ok (place, .directory) =>
    modify fun s => { s with disk := { s.disk with current := place } }
    assign "OLDPWD" old.text
    assign "PWD" (Disk.pathTo place).text
    if back then printLine (Disk.pathTo place).text
    done 0
  | _ => fail ("can't cd to " ++ target) 2

/-! ## Control -/

def exit : Builtin := fun words => do
  if let some word := words.head? then done (← numberWord word).toUInt8
  throw .exit

def giveBack : Builtin := fun words => do
  if let some word := words.head? then done (← numberWord word).toUInt8
  throw .finish

def leaveLoops (stop : Nat → Stop) : Builtin := fun words => do
  let count ← match words.head? with
    | some word => do
      let n ← numberWord word
      if n = 0 then abort ("Illegal number: " ++ word)
      pure n
    | none => pure 1
  done 0
  let loops := (← get).loops
  if loops ≠ 0 then throw (stop (min count loops))

def shift : Builtin := fun words => do
  let count ← match words.head? with
    | some word => numberWord word
    | none => pure 1
  if (← get).arguments.length < count then abort "can't shift that many"
  recast fun c => { c with arguments := c.arguments.drop count }
  done 0

/-! ## Options -/

def longOptions : List (String × Char) :=
  [ ("errexit", 'e'), ("noglob", 'f'), ("ignoreeof", 'I'), ("interactive", 'i'), ("monitor", 'm'),
    ("noexec", 'n'), ("stdin", 's'), ("xtrace", 'x'), ("verbose", 'v'), ("vi", 'V'),
    ("emacs", 'E'), ("noclobber", 'C'), ("allexport", 'a'), ("notify", 'b'), ("nounset", 'u'),
    ("nolog", 'l'), ("debug", 'd') ]

def optionLetters : List Char := "efIimnsxvVECabu".toList

def setOption (on : Bool) (letter : Char) : Effect Unit :=
  recast fun c =>
    let others := c.options.filter (· != letter)
    { c with options := if on then others ++ [letter] else others }

/-- Set the options that letters stand for. The name of a long one is the next word. -/
def setLetters (on : Bool) : List Char → List String → Effect (List String)
  | [], words => return words
  | 'o' :: letters, words => do
    match words with
    | [] => setLetters on letters []
    | word :: words =>
      let some letter := longOptions.lookup word
        | abort ("Illegal option " ++ (if on then "-o " else "+o ") ++ word)
      setOption on letter
      setLetters on letters words
  | letter :: letters, words => do
    if !optionLetters.contains letter then
      abort ("Illegal option " ++ (if on then "-" else "+") ++ letter.toString)
    setOption on letter
    setLetters on letters words

/-- Set the options at the start of words. What follows them is given back, if there is something or
two dashes announce it. -/
def setOptions : (fuel : Nat) → List String → Effect (Option (List String))
  | 0, _ | _, [] => return none
  | fuel + 1, word :: words => do
    match word.toList with
    | ['-', '-'] => return some words
    | ['-'] => return if words.isEmpty then none else some words
    | '-' :: letters => setOptions fuel (← setLetters true letters words)
    | '+' :: letters => setOptions fuel (← setLetters false letters words)
    | _ => return some (word :: words)

def set : Builtin := fun words => do
  if words.isEmpty then
    let bindings := (← get).bindings.mergeSort fun a b => a.1 ≤ b.1
    for (name, v) in bindings do
      if let some value := v.value then printLine (name ++ "=" ++ singleQuoted value)
  else if let some arguments ← setOptions (words.length + 1) words then
    recast fun c => { c with arguments }
  done 0

/-! ## Variables -/

def splitAssignment (word : String) : String × Option String :=
  match word.toList.span (· != '=') with
  | (name, _ :: value) => (String.ofList name, some (String.ofList value))
  | (name, []) => (String.ofList name, none)

def checkName (name : String) : Effect Unit := do
  if !isName name.toList then abort (name ++ ": bad variable name")

/-- Give variables a property, and perhaps values; or print those that have it. -/
def mark (command : String) (has : Variable → Bool) (change : Variable → Variable) : Builtin :=
  fun words => do
    let (_, words) ← takeLetters ['p'] words
    if words.isEmpty then
      let bindings := (← get).bindings.mergeSort fun a b => a.1 ≤ b.1
      for (name, v) in bindings do
        if has v then
          printLine (command ++ " " ++ name ++ v.value.elim "" ("=" ++ singleQuoted ·))
    for word in words do
      let (name, value) := splitAssignment word
      checkName name
      if let some value := value then assign name value
      recast fun c => c.setVariable name (some (change ((c.binding? name).getD {})))
    done 0

def local_ : Builtin := fun words => do
  if (← get).shadowed.isEmpty then abort "not in a function"
  for word in words do
    let (name, value) := splitAssignment word
    checkName name
    recast fun c =>
      match c.shadowed with
      | frame :: frames =>
        if frame.any (·.1 == name) then c
        else { c with shadowed := ((name, c.binding? name) :: frame) :: frames }
      | [] => c
    if let some value := value then assign name value
  done 0

def unset : Builtin := fun words => do
  let (letters, words) ← takeLetters ['f', 'v'] words
  for word in words do
    if letters.getLast? = some 'f' then
      recast fun c => { c with functions := c.functions.filter (·.1 != word) }
    else
      checkName word
      if ((← get).binding? word).any Variable.fixed then abort (word ++ ": is read only")
      recast fun c => c.setVariable word none
  done 0

/-! ## Input -/

/-- A line of input, of which some characters are protected, how many bytes it takes, and whether it
has an end. -/
def takeInputLine (raw : Bool) : List Char → List Mark × Nat × Bool
  | [] => ([], 0, false)
  | '\n' :: _ => ([], 1, true)
  | '\\' :: c :: rest =>
    if raw then
      let (marks, n, ended) := takeInputLine raw (c :: rest)
      (⟨'\\', .value⟩ :: marks, n + 1, ended)
    else
      let (marks, n, ended) := takeInputLine raw rest
      (if c == '\n' then marks else ⟨c, .quoted⟩ :: marks, n + 2, ended)
  | c :: rest =>
    let (marks, n, ended) := takeInputLine raw rest
    (⟨c, .value⟩ :: marks, n + 1, ended)

/-- Take marks up to a separator, and what follows it. -/
def takeField (isBlank isSeparator : Mark → Bool) (marks : List Mark) : List Mark × List Mark :=
  let (field, rest) := marks.span fun mark => !isBlank mark && !isSeparator mark
  let rest := rest.dropWhile isBlank
  match rest with
  | mark :: after => if isSeparator mark then (field, after.dropWhile isBlank) else (field, rest)
  | [] => (field, [])

/-- The values that a line is split into. The last one takes what is left. -/
def splitLine (isBlank isSeparator : Mark → Bool) : (count : Nat) → List Mark → List (List Mark)
  | 0, _ => []
  | 1, marks =>
    let trimmed := (marks.reverse.dropWhile isBlank).reverse
    match takeField isBlank isSeparator trimmed with
    | (field, []) => [field]
    | _ => [trimmed]
  | count + 1, marks =>
    let (field, rest) := takeField isBlank isSeparator marks
    field :: splitLine isBlank isSeparator count rest

def read : Builtin := fun words => do
  let raw := words.head? = some "-r"
  let words := match words with
    | "-r" :: "-p" :: _ :: rest => rest
    | "-p" :: _ :: rest => rest
    | "-r" :: rest => rest
    | _ => words
  if words.isEmpty then
    fail "arg count" 2
    return
  for word in words do checkName word
  let (marks, used, ended) := takeInputLine raw (charsOf (← peek 0))
  skip 0 used
  let separators := (← get).separators
  let isBlank (mark : Mark) : Bool :=
    mark.origin == .value && separators.contains mark.char && Fields.isBlankSeparator mark.char
  let isSeparator (mark : Mark) : Bool :=
    mark.origin == .value && separators.contains mark.char && !Fields.isBlankSeparator mark.char
  let values := splitLine isBlank isSeparator words.length (marks.dropWhile isBlank)
  for (word, value) in words.zip values do
    let bytes := bytesOf (value.map Mark.char)
    assign word ((String.fromUTF8? bytes).getD (textOf value))
  done (if ended then 0 else 1)

/-- Read the next option of the script, or of given words, into a variable. -/
def getopts : Builtin := fun words => do
  let known :: name :: given := words | fail "Usage: getopts optstring var [arg...]" 2
  let s ← get
  let arguments := if given.isEmpty then s.arguments else given
  let next := ((s.text? "OPTIND").bind String.toNat?).getD 1
  let silent := known.startsWith ":"
  let letters := known.toList.filter (· != ':')
  let takesArgument (c : Char) : Bool :=
    match known.toList.dropWhile (· != c) with
    | _ :: ':' :: _ => true
    | _ => false
  let found (c : Char) (argument : Option String) (next offset : Nat) (status : UInt8) :
      Effect Unit := do
    recast fun c => { c with optionOffset := offset }
    assign name c.toString
    recast fun c => c.setVariable "OPTARG" (argument.map fun a => { value := some a })
    assign "OPTIND" (toString next)
    done status
  let inside := s.optionOffset != 0 && next != 1
  let word := (arguments[if inside then next - 2 else next - 1]?).getD ""
  let start := if inside then s.optionOffset else 1
  let next := if inside then next else next + 1
  if !inside && (word.length < 2 || !word.startsWith "-") then found '?' none (next - 1) 0 1
  else if !inside && word = "--" then found '?' none next 0 1
  else
    match word.toList.drop start with
    | [] => found '?' none next 0 1
    | c :: rest =>
      let offset := if rest.isEmpty then 0 else start + 1
      if !letters.contains c then
        if !silent then writeLine 2 ("Illegal option -" ++ c.toString)
        found '?' (if silent then some c.toString else none) next offset 0
      else if !takesArgument c then found c none next offset 0
      else if !rest.isEmpty then found c (some (String.ofList rest)) next 0 0
      else
        match arguments[next - 1]? with
        | some argument => found c (some argument) (next + 1) 0 0
        | none =>
          if silent then found ':' (some c.toString) next 0 0
          else
            writeLine 2 ("No arg for -" ++ c.toString ++ " option")
            found '?' none next 0 0

/-! ## Signals -/

def trap : Builtin := fun words => do
  let words := if words.head? = some "--" then words.tail else words
  let bad (word : String) : Effect Unit := do
    writeLine 2 ("trap: " ++ word ++ ": bad trap")
    done 1
  match words with
  | [] =>
    for name in "EXIT" :: signalNames.map Prod.fst do
      if let some action := (← get).traps.lookup name then
        printLine ("trap -- " ++ singleQuoted action ++ " " ++ name)
    done 0
  | first :: rest =>
    let reset := rest.isEmpty || (first.toNat?).isSome
    let names := if reset then words else rest
    done 0
    for word in names do
      match trapName? word with
      | none =>
        bad word
        break
      | some name =>
        recast fun c =>
          let others := c.traps.filter (·.1 != name)
          { c with traps := if reset || first = "-" then others else others ++ [(name, first)] }

def kill : Builtin := fun words => do
  let usage : Effect Unit :=
    fail ("Usage: kill [-s sigspec | -signum | -sigspec] [pid | job]... or\n" ++
      "kill -l [exitstatus]") 2
  let sendAll (signal : Nat) (targets : List String) : Effect Unit := do
    if targets.isEmpty then
      usage
      return
    done 0
    for target in targets do
      let digits := if target.startsWith "-" then (target.drop 1).toString else target
      if digits.startsWith "%" then
        if (jobOf? (← get) digits).isSome then fail "No such process\n" 1
        else
          fail ("No such job: " ++ target) 2
          return
      else if digits = "" || !digits.toList.all Char.isDigit then
        fail ("Illegal number: " ++ digits) 2
        return
      else
        let process := numberIn digits.toList
        if process = 0 then sendToAll signal
        else if !(← sendSignal signal process) then
          fail "No such process\n" 1
  match words with
  | [] => usage
  | first :: rest =>
    match first.toList with
    | '-' :: cs =>
      match signalNumber? (String.ofList cs), cs, rest with
      | some signal, _, _ => sendAll signal rest
      | none, ['-'], _ => sendAll 15 rest
      | none, 's' :: attached, _ =>
        let (word, rest) := if attached.isEmpty then (rest.head?.getD "", rest.tail)
          else (String.ofList attached, rest)
        match signalNumber? word with
        | some signal => sendAll signal rest
        | none => fail ("invalid signal number or name: " ++ word) 2
      | none, ['l'], [] =>
        printLine "0"
        for (name, _) in signalNames do printLine name
        done 0
      | none, ['l'], word :: _ =>
        match word.toNat? with
        | none => fail ("Illegal number: " ++ word) 2
        | some n =>
          let name := signalName (if 128 < n then n - 128 else n)
          if name = "" then fail ("invalid signal number or exit status: " ++ word) 2
          else
            printLine name
            done 0
      | none, c :: _, _ => fail ("Illegal option -" ++ c.toString) 2
      | none, [], _ => usage
    | _ => sendAll 15 words

/-! ## Commands by name -/

def hash : Builtin := fun words => do
  done 0
  for word in words.filter fun word => !word.startsWith "-" do
    let s ← get
    let directories := ((s.text? "PATH").getD "").splitOn ":"
    if (Program.find s.disk directories word).toOption.isNone then fail (word ++ ": not found") 1

def builtin? : (name : String) → Option Builtin
  | ":" | "true" => some fun _ => done 0
  | "false" => some fun _ => done 1
  | "echo" => some echo
  | "printf" => some printf
  | "test" => some (test false)
  | "[" => some (test true)
  | "cd" | "chdir" => some cd
  | "pwd" => some fun _ => do emit ((Disk.pathTo (← get).disk.current).text ++ "\n").toUTF8 0
  | "exit" => some exit
  | "return" => some giveBack
  | "break" => some (leaveLoops .leave)
  | "continue" => some (leaveLoops .again)
  | "shift" => some shift
  | "set" => some set
  | "unset" => some unset
  | "export" => some (mark "export" Variable.exported fun v => { v with exported := true })
  | "readonly" => some (mark "readonly" Variable.fixed fun v => { v with fixed := true })
  | "local" => some local_
  | "read" => some read
  | "getopts" => some getopts
  | "trap" => some trap
  | "kill" => some kill
  | "hash" => some hash
  | "umask" => some fun words => do
    if words.isEmpty then printLine "0022"
    done 0
  | "ulimit" => some fun words => do
    if words.length ≤ 1 then printLine "unlimited"
    done 0
  | "times" | "jobs" | "fg" | "bg" | "alias" | "unalias" => some fun _ => done 0
  | _ => none

def runnerNames : List String := ["eval", ".", "exec", "command", "type", "wait"]

def isBuiltinName (name : String) : Bool := runnerNames.contains name || (builtin? name).isSome

end RackTraffic.Shell
