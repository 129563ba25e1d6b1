import RackTraffic.Shell.Printing
import RackTraffic.Shell.Tool.Basic

/-!
# Tools for text

The tools that read text and print text.

Only the machine for scripts (`Shell.host`) needs this module, and only `Main` and test runs need
the machine; no result is about it.
-/

namespace RackTraffic.Shell

open Effect

/-- Print files one after the other, perhaps with numbers of lines. -/
def cat : Tool :=
  withOptions { plain := "nuvbsAeEtT", long := [("number", 'n')] } 1 fun name o => do
    let mut number := 0
    done 0
    for file in if o.operands.isEmpty then ["-"] else o.operands do
      match ← readOperand file with
      | .error error =>
        say name (plainComplaint file error)
        done 1
      | .ok bytes =>
        if o.has 'n' || o.has 'b' then
          for (line, ended) in endedLines (charsOf bytes) do
            if o.has 'b' && line.isEmpty then print (if ended then ['\n'] else [])
            else
              number := number + 1
              print (rightAligned 6 number ++ '\t' :: line ++ if ended then ['\n'] else [])
        else write 1 bytes

/-! ## Parts -/

def amount? (isTail inBytes : Bool) (text : String) : Option Amount :=
  let (sign, digits) := match text.toList with
    | '-' :: rest => (some '-', rest)
    | '+' :: rest => (some '+', rest)
    | s => (none, s)
  let rest := sign == some (if isTail then '+' else '-')
  let (digits, unit) := digits.span Char.isDigit
  let factor? : Option Nat := match unit with
    | [] => some 1
    | ['b'] => some 512
    | ['k'] | ['K'] => some 1024
    | ['M'] => some (1024 * 1024)
    | _ => none
  if digits.isEmpty then none
  else factor?.map fun factor => ⟨numberIn digits * factor, inBytes, rest⟩

def printPart (isTail : Bool) : Tool := fun name words =>
  let words := match words with
    | first :: others =>
      match first.toList with
      | '-' :: c :: cs =>
        if c.isDigit && (c :: cs).all Char.isDigit then
          "-n" :: String.ofList (c :: cs) :: others
        else words
      | _ => words
    | [] => words
  let letters : Options.Letters :=
    { plain := "qvz", withArgument := "nc"
      long := [("lines", 'n'), ("bytes", 'c'), ("quiet", 'q'), ("verbose", 'v')] }
  withOptions letters 1 (fun name o => do
    let chosen := (o.given.filter fun (c, _) => c == 'n' || c == 'c').getLast?.getD ('n', "10")
    match amount? isTail (chosen.1 == 'c') chosen.2 with
    | none =>
      let what := if chosen.1 == 'c' then "bytes" else "lines"
      say name ("invalid number of " ++ what ++ ": '" ++ chosen.2 ++ "'")
      done 1
    | some amount =>
      let files := if o.operands.isEmpty then ["-"] else o.operands
      let titled := (1 < files.length || o.has 'v') && !o.has 'q'
      let mut first := true
      done 0
      for file in files do
        let seekable := match ← channel? 0 with
          | some (_, { medium := .file _, .. }) => true
          | _ => false
        let bytes? ← if file = "-" then pure (.ok (← peek 0)) else readOperand file
        match bytes? with
        | .error .isADirectory =>
          say name ("error reading '" ++ file ++ "': Is a directory")
          done 1
        | .error error =>
          say name ("cannot open '" ++ file ++ "' for reading: " ++ reasonOf error)
          done 1
        | .ok bytes =>
          if titled then
            let title := if file = "-" then "standard input" else file
            printLine ((if first then "" else "\n") ++ "==> " ++ title ++ " <==")
          let part := (if isTail then amount.tail else amount.head) (charsOf bytes)
          if file = "-" then
            skip 0 (if seekable && !isTail then part.length else bytes.size)
          print part
          first := false) name words

def wc : Tool :=
  let letters : Options.Letters :=
    { plain := "lwcmL", long := [("lines", 'l'), ("words", 'w'), ("bytes", 'c'), ("chars", 'm')] }
  withOptions letters 1 fun name o => do
    let columns := ['l', 'w', 'm', 'c', 'L'].filter fun c =>
      if o.given.isEmpty then c == 'l' || c == 'w' || c == 'c' else o.has c
    let files := if o.operands.isEmpty then ["-"] else o.operands
    let mut size := 0
    let mut least := 1
    for file in files do
      if file = "-" then
        match ← channel? 0 with
        | some (_, { medium := .file _, .. }) => size := size + (← peek 0).size
        | _ => least := 7
      else
        match (← get).disk.find ⟨file⟩ with
        | .ok (_, .file contents _) => size := size + contents.size
        | .ok _ => least := 7
        | .error _ => pure ()
    let width := if files.length = 1 && columns.length = 1 then 1
      else max least (Nat.toDigits 10 size).length
    let show_ (counts : List (Char × Nat)) (title : String) : Effect Unit :=
      let numbers := columns.map fun c => rightAligned width ((counts.lookup c).getD 0)
      print ([' '].intercalate numbers ++
        (if title = "" then [] else ' ' :: rawChars title) ++ ['\n'])
    let mut total : List (Char × Nat) := countsOf []
    done 0
    for file in files do
      match ← readOperand file with
      | .ok bytes =>
        let counts := countsOf (charsOf bytes)
        total := total.map fun (c, n) =>
          let m := (counts.lookup c).getD 0
          (c, if c == 'L' then max n m else n + m)
        show_ counts (if o.operands.isEmpty then "" else file)
      | .error error =>
        say name (plainComplaint file error)
        if error = .isADirectory then show_ [] file
        done 1
    if 1 < files.length then show_ total "total"

/-! ## Order -/

def sort : Tool :=
  let letters : Options.Letters :=
    { plain := "nrufbdgscCmizM", withArgument := "ktoST"
      long := [("reverse", 'r'), ("numeric-sort", 'n'), ("unique", 'u'), ("key", 'k'),
        ("field-separator", 't'), ("output", 'o'), ("stable", 's')] }
  withOptions letters 2 fun name o => do
    let keys := (o.all 'k').map .ofText
    if let some text := (o.all 'k').find? fun text => (SortKey.ofText text).first.1 = 0 then
      say name ("field number is zero: invalid field specification '" ++ text ++ "'")
      done 2
      return
    let order : SortOrder := {
      separator := (o.last? 't').bind fun t => (rawChars t).head?
      keys
      flags := "nrufbdgs".toList.filter o.has }
    let files := if o.operands.isEmpty then ["-"] else o.operands
    let mut lines : List (List Char) := []
    for file in files do
      match ← readOperand file with
      | .ok bytes => lines := lines ++ lineTexts (charsOf bytes)
      | .error error =>
        say name (if error = .isADirectory then "read failed: " ++ file ++ ": " ++ reasonOf error
          else "cannot read: " ++ file ++ ": " ++ reasonOf error)
        done 2
        return
    done 0
    if o.has 'c' || o.has 'C' then
      let disorder := (lines.zip lines.tail).findIdx? fun (a, b) =>
        let found := order.compareLines a b
        found == .gt || (o.has 'u' && found == .eq)
      if let some n := disorder then
        if o.has 'c' then
          say name (files.head?.getD "-" ++ ":" ++ toString (n + 2) ++ ": disorder: " ++
            String.ofList (lines[n + 1]?.getD []))
        done 1
    else
      let sorted := joinLines (order.sorted lines)
      match o.last? 'o' with
      | none => print sorted
      | some target =>
        if let .error error ← writeFile target false (bytesOf sorted) then
          say name ("open failed: " ++ target ++ ": " ++ reasonOf error)
          done 2

def uniq : Tool :=
  let letters : Options.Letters :=
    { plain := "cdui", withArgument := "fsw", long := [("count", 'c')] }
  withOptions letters 1 fun name o => do
    match ← readOperand (o.operands.head?.getD "-") with
    | .error error =>
      say name (plainComplaint (o.operands.head?.getD "-") error)
      done 1
    | .ok bytes =>
      let view (s : List Char) : List Char :=
        let fields := ((o.last? 'f').bind String.toNat?).getD 0
        let skipField (s : List Char) : List Char :=
          (s.dropWhile isFieldBlank).dropWhile (!isFieldBlank ·)
        let s := (List.range fields).foldl (fun s _ => skipField s) s
        let s := s.drop (((o.last? 's').bind String.toNat?).getD 0)
        if o.has 'i' then s.map Char.toLower else s
      let runs := runsOf (fun a b => view a == view b) (lineTexts (charsOf bytes))
      let kept := runs.filter fun (n, _) =>
        (!o.has 'd' || 1 < n) && (!o.has 'u' || n == 1)
      let text := kept.flatMap fun (n, line) =>
        (if o.has 'c' then rightAligned 7 n ++ [' '] else []) ++ line ++ ['\n']
      done 0
      match o.operands[1]? with
      | none => print text
      | some target =>
        if let .error error ← writeFile target false (bytesOf text) then
          say name (plainComplaint target error)
          done 1

/-! ## Pieces -/

def cut : Tool :=
  let letters : Options.Letters :=
    { plain := "sn", withArgument := "dfcbOX"
      long := [("delimiter", 'd'), ("fields", 'f'), ("characters", 'c'), ("bytes", 'b'),
        ("output-delimiter", 'O'), ("only-delimited", 's'), ("complement", 'X')] }
  fun name words =>
    let words := words.map fun word => if word = "--complement" then "-Xall" else word
    withOptions letters 1 (fun name o => do
      let list? := (o.last? 'f').or ((o.last? 'c').or (o.last? 'b'))
      let delimiter := (o.last? 'd').elim ['\t'] rawChars
      match list?, delimiter with
      | none, _ =>
        refuse name (.other "you must specify a list of bytes, characters, or fields") 1
      | _, [] | _, _ :: _ :: _ =>
        refuse name (.other "the delimiter must be a single character") 1
      | some list, [delimiter] =>
        let byFields := o.has 'f'
        match numberRanges? list with
        | none => refuse name (.other (if byFields then "invalid field range"
            else "invalid byte or character range")) 1
        | some ranges =>
          if ranges.any (·.1 == 0) then
            refuse name (.other (if byFields then "fields are numbered from 1"
              else "byte/character positions are numbered from 1")) 1
          else
            let output := (o.last? 'O').elim [delimiter] rawChars
            forInputs name o.operands 1 plainComplaint fun _ bytes =>
              print (joinLines ((lineTexts (charsOf bytes)).filterMap fun line =>
                if byFields then
                  cutFields delimiter output (o.has 's') (o.has 'X') ranges line
                else some (pickRanges ranges (o.has 'X') line)))) name words

def tr : Tool :=
  let letters : Options.Letters :=
    { plain := "dscCt", long := [("delete", 'd'), ("squeeze-repeats", 's'), ("complement", 'c')] }
  fun name words =>
  match Options.read letters false words with
  | .error fault => refuse name fault 1
  | .ok o => do
    let set (word : String) : List Char := charSet (word.length + 1) (rawChars word)
    let exchange : Exchange := {
      source := set (o.operands.head?.getD "")
      target := (o.operands[1]?).elim [] set
      complement := o.has 'c' || o.has 'C', delete := o.has 'd', squeeze := o.has 's' }
    match o.operands with
    | [] => refuse name .missingOperand 1
    | [only] =>
      if o.has 'd' || o.has 's' then
        print (exchange.apply (charsOf (← readRest 0)))
        done 0
      else
        say name ("missing operand after '" ++ only ++ "'")
        writeLine 2 "Two strings must be given when translating."
        writeLine 2 ("Try '" ++ name ++ " --help' for more information.")
        done 1
    | [_, _] =>
      print (exchange.apply (charsOf (← readRest 0)))
      done 0
    | _ :: _ :: extra :: _ => refuse name (.extraOperand extra) 1

def tac : Tool :=
  withOptions { plain := "" } 1 fun name o => do
    let mut output : Array (List Char) := #[]
    done 0
    for file in if o.operands.isEmpty then ["-"] else o.operands do
      match ← readOperand file with
      | .ok bytes =>
        let pieces := (endedLines (charsOf bytes)).map fun (line, ended) =>
          if ended then line ++ ['\n'] else line
        output := output.push pieces.reverse.flatten
      | .error error =>
        say name ("failed to open '" ++ file ++ "' for reading: " ++ reasonOf error)
        done 1
    print output.toList.flatten

def rev : Tool :=
  withOptions { plain := "" } 1 fun name o =>
    forInputs name o.operands 1
      (fun file error => "cannot open " ++ file ++ ": " ++ reasonOf error)
      fun _ bytes => print ((endedLines (charsOf bytes)).flatMap fun (line, ended) =>
        line.reverse ++ if ended then ['\n'] else [])

def nl : Tool :=
  withOptions { plain := "", withArgument := "bnws" } 1 fun name o => do
    let s ← gather name o.operands 1 plainComplaint
    let every := o.last? 'b' = some "a"
    let mut number := 0
    for line in lineTexts s do
      if line.isEmpty && !every then print (List.replicate 7 ' ' ++ ['\n'])
      else
        number := number + 1
        print (rightAligned 6 number ++ '\t' :: line ++ ['\n'])

/-- Print the lines of files side by side, or each file as one line. -/
def paste : Tool :=
  withOptions { plain := "s", withArgument := "d" } 1 fun name o => do
    let delimiters := (charSet 100 ((o.last? 'd').elim ['\t'] rawChars))
    let join (parts : List (List Char)) : List Char :=
      (parts.zipIdx.flatMap fun (part, n) =>
        if n = 0 then part
        else ((delimiters[(n - 1) % max 1 delimiters.length]?).toList) ++ part)
    let mut columns : List (List (List Char)) := []
    done 0
    for file in if o.operands.isEmpty then ["-"] else o.operands do
      match ← readOperand file with
      | .ok bytes => columns := columns ++ [lineTexts (charsOf bytes)]
      | .error error =>
        say name (plainComplaint file error)
        done 1
        return
    if o.has 's' then print (joinLines (columns.map join))
    else
      let height := (columns.map List.length).foldl max 0
      print (joinLines ((List.range height).map fun n =>
        join (columns.map fun column => column[n]?.getD [])))

/-! ## Copies -/

def tee : Tool :=
  withOptions { plain := "ai", long := [("append", 'a')] } 1 fun name o => do
    done 0
    let bytes ← readRest 0
    for file in o.operands do
      if let .error error ← writeFile file (o.has 'a') bytes then
        say name (file ++ ": " ++ reasonOf error)
        done 1
    write 1 bytes

def echoTool : Tool := fun _ words => do
  write 1 (echoed .program words)
  done 0

def printfTool : Tool := fun name words => do
  match if words.head? = some "--" then words.tail else words with
  | [] => refuse name .missingOperand 1
  | format :: words =>
    let p := Printing.ofFormat .program format words
    let mut printed := 0
    for (place, complaint) in p.complaints do
      write 1 (p.bytes.extract printed place)
      say name complaint
      printed := place
    write 1 (p.bytes.extract printed p.bytes.size)
    if words != [] && p.words.length = words.length && !p.broken then
      say name ("warning: ignoring excess arguments, starting with '" ++
        words.head?.getD "" ++ "'")
    done (if p.complaints.isEmpty then 0 else 1)

/-! ## Searching -/

def grep (extended fixed : Bool) : Tool :=
  let letters : Options.Letters :=
    { plain := "EFGivwxcnqslLohHarz", withArgument := "emABC"
      long := [("extended-regexp", 'E'), ("fixed-strings", 'F'), ("ignore-case", 'i'),
        ("invert-match", 'v'), ("count", 'c'), ("quiet", 'q'), ("silent", 'q'),
        ("line-number", 'n'), ("only-matching", 'o'), ("word-regexp", 'w'), ("line-regexp", 'x'),
        ("files-with-matches", 'l'), ("no-messages", 's'), ("max-count", 'm'), ("regexp", 'e')] }
  let usage (name : String) : Effect Unit := do
    writeLine 2 ("Usage: " ++ name ++ " [OPTION]... PATTERNS [FILE]...")
    writeLine 2 ("Try '" ++ name ++ " --help' for more information.")
    done 2
  fun called words =>
  let name := if called = "egrep" || called = "fgrep" then "grep" else called
  match Options.read letters true words with
  | .error fault => do
    say name fault.message
    usage name
  | .ok o => do
    let patterns := o.all 'e'
    match if patterns.isEmpty then o.operands else "" :: o.operands with
    | [] => usage name
    | pattern :: files =>
      let texts := (if patterns.isEmpty then [pattern] else patterns).flatMap fun text =>
        (rawChars text).splitOn '\n'
      let read (s : List Char) : Option Regex :=
        if (fixed || o.has 'F') && !o.has 'E' && !o.has 'G' then some (literalRegex s)
        else Regex.ofText? (extended || o.has 'E') s
      match texts.mapM read with
      | none =>
        say name "Invalid regular expression"
        done 2
      | some expressions =>
        let search : Search := {
          expressions, fold := o.has 'i', inverted := o.has 'v'
          wholeLine := o.has 'x', wholeWord := o.has 'w' }
        let files := if files.isEmpty then ["-"] else files
        let titled := (1 < files.length || o.has 'H') && !o.has 'h'
        let most := (o.last? 'm').bind String.toNat?
        let mut any := false
        let mut failed := false
        for file in files do
          match ← readOperand file with
          | .error error =>
            if !o.has 's' then say name (plainComplaint file error)
            failed := true
          | .ok bytes =>
            let title := if file = "-" then "(standard input)" else file
            let selected := ((lineTexts (charsOf bytes)).zipIdx 1).filter fun (line, _) =>
              search.selects line
            let selected := most.elim selected selected.take
            if !selected.isEmpty then any := true
            let before (n : Nat) : List Char :=
              (if titled then rawChars title ++ [':'] else []) ++
                if o.has 'n' then Nat.toDigits 10 n ++ [':'] else []
            if o.has 'q' then pure ()
            else if o.has 'l' then
              if !selected.isEmpty then printLine title
            else if o.has 'L' then
              if selected.isEmpty then printLine title
            else if o.has 'c' then
              print ((if titled then rawChars title ++ [':'] else []) ++
                Nat.toDigits 10 selected.length ++ ['\n'])
            else if o.has 'o' then
              if !o.has 'v' then
                for (line, n) in selected do
                  for found in search.matchesFrom line.toArray (line.length + 1) 0 do
                    print (before n ++ found ++ ['\n'])
            else
              for (line, n) in selected do print (before n ++ line ++ ['\n'])
        done (if failed && !(o.has 'q' && any) then 2 else if any then 0 else 1)

def sed : Tool :=
  let letters : Options.Letters :=
    { plain := "nErsuiz", withArgument := "ef"
      long := [("quiet", 'n'), ("silent", 'n'), ("expression", 'e'), ("regexp-extended", 'E'),
        ("in-place", 'i'), ("file", 'f')] }
  withOptions letters 1 fun name o => do
    let mut scripts := o.all 'e'
    if let some file := o.last? 'f' then
      match (← get).disk.readText ⟨file⟩ with
      | .ok text => scripts := scripts ++ [text]
      | .error error =>
        say name ("couldn't open file " ++ file ++ ": " ++ reasonOf error)
        done 1
        return
    match if scripts.isEmpty then o.operands else "\n".intercalate scripts :: o.operands with
    | [] =>
      writeLine 2 ("Usage: " ++ name ++ " [OPTION]... \x7bscript-only-if-no-other-script\x7d " ++
        "[input-file]...")
      done 1
    | text :: files =>
      let s := rawChars text
      match takeEdit (o.has 'E' || o.has 'r') (s.length + 1) s with
      | .error fault =>
        say name ("-e expression #1, char " ++ toString (s.length - fault.left) ++ ": " ++
          fault.reason)
        done 1
      | .ok commands =>
        let quiet := o.has 'n' || text.startsWith "#n\n"
        let complaint (file : String) (error : IoError) : String :=
          if error = .isADirectory then "couldn't edit " ++ file ++ ": not a regular file"
          else "can't read " ++ file ++ ": " ++ reasonOf error
        if o.has 'i' then
          done 0
          for file in files do
            match ← readOperand file with
            | .ok bytes =>
              let (out, status) := edited commands quiet (charsOf bytes)
              if let .error error ← writeFile file false (bytesOf out) then
                say name ("couldn't open file " ++ file ++ ": " ++ reasonOf error)
                done 4
              else if status ≠ 0 then done status
            | .error error =>
              say name (complaint file error)
              done (if error = .isADirectory then 4 else 2)
        else
          let complaint (file : String) (error : IoError) : String :=
            if error = .isADirectory then "read error on " ++ file ++ ": Is a directory"
            else complaint file error
          let input ← gather name files 2 complaint
          let (out, status) := edited commands quiet input
          print out
          if status ≠ 0 then done status

/-! ## Comparing -/

def cmp : Tool := fun name words => do
  let refused (fault : UsageFault) : Effect Unit := do
    say name fault.message
    say name ("Try '" ++ name ++ " --help' for more information.")
    done 2
  let letters : Options.Letters :=
    { plain := "slb", long := [("quiet", 's'), ("silent", 's')] }
  match Options.read letters true words with
  | .error fault => refused fault
  | .ok o =>
    match o.operands with
    | [] => refused (.missingOperandAfter name)
    | [only] => refused (.missingOperandAfter only)
    | first :: second :: _ =>
      match ← readOperand first, ← readOperand second with
      | .ok a, .ok b =>
        if a == b then done 0
        else
          let common := min a.size b.size
          match (List.range common).find? fun n => a[n]? != b[n]? with
          | some n =>
            let line := (charsOf (a.extract 0 n)).count '\n' + 1
            if !o.has 's' then
              printLine s!"{first} {second} differ: byte {n + 1}, line {line}"
          | none =>
            let shorter := if a.size < b.size then first else second
            let start := charsOf (a.extract 0 common)
            let lines := start.count '\n'
            let reached := if common = 0 then " which is empty"
              else if start.getLast? = some '\n' then s!" after byte {common}, line {lines}"
              else s!" after byte {common}, in line {lines + 1}"
            if !o.has 's' then say name ("EOF on " ++ shorter ++ reached)
          done 1
      | .error error, _ =>
        if !o.has 's' then say name (plainComplaint first error)
        done 2
      | _, .error error =>
        if !o.has 's' then say name (plainComplaint second error)
        done 2

end RackTraffic.Shell
