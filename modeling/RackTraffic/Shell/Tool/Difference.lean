import RackTraffic.Shell.Tool.Basic

/-!
# Differences of files

Two texts are compared line by line. A longest sequence of lines that both have is found; the lines
between those are what differs, and are shown by where they stand in both texts.

Only the machine for scripts (`Shell.host`) needs this module, and only `Main` and test runs need
the machine; no result is about it.
-/

namespace RackTraffic.Shell

open Effect

/-- Lines that are only in one text or the other, each with where they begin. -/
structure Hunk where
  first : Nat
  second : Nat
  removed : List (List Char)
  added : List (List Char)
  deriving Repr

/-- For each suffix of the second text, how many lines it has in common with a line before a text of
which that is known. -/
def commonWith (same : List Char → List Char → Bool) (line : List Char) (b : List (List Char))
    (counts : List Nat) : List Nat :=
  (b.zip (counts.zip counts.tail)).foldr (fun (other, count, next) found =>
    (if same line other then next + 1 else max count (found.head?.getD 0)) :: found) [0]

/-- For each suffix of both texts, how many lines they have in common at most. -/
def commonTable (same : List Char → List Char → Bool) (a b : List (List Char)) :
    List (List Nat) :=
  a.foldr (fun line rows =>
    commonWith same line b (rows.head?.getD []) :: rows) [List.replicate (b.length + 1) 0]

/-- A hunk with one more line before it, or a new one. -/
def Hunk.extend (current : Option Hunk) (first second : Nat) (removed : Bool) (line : List Char) :
    Option Hunk :=
  let hunk := current.getD ⟨first, second, [], []⟩
  some (if removed then { hunk with removed := hunk.removed ++ [line] }
    else { hunk with added := hunk.added ++ [line] })

/-- The hunks of two texts from lines on. `current` is the hunk that has begun. -/
def hunksFrom (same : List Char → List Char → Bool) :
    (fuel : Nat) → (rows : List (List Nat)) → (first second : Nat) → (current : Option Hunk) →
      (a b : List (List Char)) → List Hunk
  | 0, _, _, _, current, _, _ => current.toList
  | _, _, _, _, current, [], [] => current.toList
  | fuel + 1, rows, first, second, current, x :: a, [] =>
    hunksFrom same fuel rows.tail (first + 1) second (Hunk.extend current first second true x) a []
  | fuel + 1, rows, first, second, current, [], y :: b =>
    hunksFrom same fuel rows first (second + 1) (Hunk.extend current first second false y) [] b
  | fuel + 1, rows, first, second, current, x :: a, y :: b =>
    if same x y then
      current.toList ++
        hunksFrom same fuel (rows.tail.map List.tail) (first + 1) (second + 1) none a b
    else
      let withoutFirst := (((rows.tail.head?).getD []).head?).getD 0
      let withoutSecond := ((((rows.head?).getD []).tail).head?).getD 0
      if withoutSecond ≤ withoutFirst then
        hunksFrom same fuel rows.tail (first + 1) second (Hunk.extend current first second true x)
          a (y :: b)
      else
        hunksFrom same fuel (rows.map List.tail) first (second + 1)
          (Hunk.extend current first second false y) (x :: a) b

/-- Where lines stand: the first and the last of them, or the line before them if there are none. -/
def lineRange (start count : Nat) : String :=
  if count = 0 then toString start
  else if count = 1 then toString (start + 1)
  else toString (start + 1) ++ "," ++ toString (start + count)

/-- The lines of a hunk as they are shown. A line that does not end is marked. -/
def Hunk.shown (hunk : Hunk) : List Char :=
  let marked (mark : Char) (line : List Char) : List Char :=
    mark :: ' ' :: line ++
      if line.getLast? == some '\n' then [] else "\n\\ No newline at end of file\n".toList
  let kind := if hunk.removed.isEmpty then "a" else if hunk.added.isEmpty then "d" else "c"
  (lineRange hunk.first hunk.removed.length ++ kind ++ lineRange hunk.second hunk.added.length ++
      "\n").toList ++
    hunk.removed.flatMap (marked '<') ++
    (if kind = "c" then "---\n".toList else []) ++
    hunk.added.flatMap (marked '>')

/-- A line in which blanks or cases do not count. -/
def foldedLine (fold blanks allBlanks : Bool) (line : List Char) : List Char :=
  let line := if fold then line.map Char.toLower else line
  if allBlanks then line.filter (!isNumberBlank ·)
  else if blanks then
    [' '].intercalate ((line.splitBy fun a b => isNumberBlank a == isNumberBlank b).filter
      fun run => !run.head?.any isNumberBlank)
  else line

def diff : Tool := fun name words => do
  let refused (fault : UsageFault) : Effect Unit := do
    say name fault.message
    say name ("Try '" ++ name ++ " --help' for more information.")
    done 2
  let letters : Options.Letters :=
    { plain := "qsibwaNr", long := [("brief", 'q'), ("report-identical-files", 's')] }
  match Options.read letters true words with
  | .error fault => refused fault
  | .ok o =>
    match o.operands with
    | [] => refused (.missingOperandAfter name)
    | [only] => refused (.missingOperandAfter only)
    | _ :: _ :: extra :: _ => refused (.extraOperand extra)
    | [first, second] =>
      let d := (← get).disk
      let inside (directory other : String) : String :=
        if d.isDirectory ⟨directory⟩ then
          ((⟨directory⟩ : Path).join (((⟨other⟩ : Path).fileName?).getD other)).text
        else directory
      let paths := (inside first second, inside second first)
      match ← readOperand paths.1, ← readOperand paths.2 with
      | .ok a, .ok b =>
        let same (x y : List Char) : Bool :=
          foldedLine (o.has 'i') (o.has 'b') (o.has 'w') x ==
            foldedLine (o.has 'i') (o.has 'b') (o.has 'w') y
        let linesOf (bytes : ByteArray) : List (List Char) :=
          (endedLines (charsOf bytes)).map fun (line, ended) =>
            if ended then line ++ ['\n'] else line
        let (x, y) := (linesOf a, linesOf b)
        let hunks := if a == b then [] else
          hunksFrom same (x.length + y.length + 1) (commonTable same x y) 0 0 none x y
        let both := paths.1 ++ " and " ++ paths.2
        if hunks.isEmpty then
          if o.has 's' then printLine ("Files " ++ both ++ " are identical")
          done 0
        else
          if o.has 'q' then printLine ("Files " ++ both ++ " differ")
          else print (hunks.flatMap Hunk.shown)
          done 1
      | found, other =>
        for (path, r) in [(paths.1, found), (paths.2, other)] do
          if let .error error := r then say name (path ++ ": " ++ reasonOf error)
        done 2

end RackTraffic.Shell
