import RackTraffic.Shell.Arithmetic
import RackTraffic.Shell.Tool.Edit

/-!
# Filters

Tools that make a text of another one: they sort its lines, count them, cut pieces out of them, or
select some of them. The characters of a text are bytes here.

Only the machine for scripts (`Shell.host`) needs this module, and only `Main` and test runs need
the machine; no result is about it.
-/

namespace RackTraffic.Shell

def charsOf (bytes : ByteArray) : List Char := bytes.toList.map fun b => Char.ofNat b.toNat

def bytesOf (s : List Char) : ByteArray :=
  s.foldl (fun bytes c => bytes.push c.toNat.toUInt8) .empty

def rawChars (text : String) : List Char := charsOf text.toUTF8

/-- Bytes as text, without null characters. What is no text is taken byte by byte. -/
def textOfBytes (bytes : ByteArray) : String :=
  let text := (String.fromUTF8? bytes).getD (String.ofList (charsOf bytes))
  if text.toList.contains '\x00' then String.ofList (text.toList.filter (· != '\x00')) else text

def withoutFinalLines (bytes : ByteArray) : ByteArray :=
  bytes.extract 0 (bytes.size - (bytes.toList.reverse.takeWhile (· == 10)).length)

def lineTexts (s : List Char) : List (List Char) := (endedLines s).map Prod.fst

def joinLines (lines : List (List Char)) : List Char := lines.flatMap (· ++ ['\n'])

/-! ## Parts -/

/-- A part of a text to be kept, counted in lines or in bytes. -/
structure Amount where
  count : Nat
  inBytes : Bool := false
  ofRest : Bool := false
  deriving Repr

def Amount.pieces (a : Amount) (s : List Char) : List (List Char) :=
  if a.inBytes then s.map ([·])
  else (endedLines s).map fun (line, ended) => if ended then line ++ ['\n'] else line

def Amount.head (a : Amount) (s : List Char) : List Char :=
  let pieces := a.pieces s
  (pieces.take (if a.ofRest then pieces.length - a.count else a.count)).flatten

/-- The end of a text. If the count is of the rest, it says where the end begins. -/
def Amount.tail (a : Amount) (s : List Char) : List Char :=
  let pieces := a.pieces s
  (pieces.drop (if a.ofRest then a.count - 1 else pieces.length - a.count)).flatten

/-! ## Counting -/

def countsOf (s : List Char) : List (Char × Nat) :=
  let words := (s.splitOnP isNumberBlank).filter (!·.isEmpty)
  [('l', s.count '\n'), ('w', words.length), ('m', s.length), ('c', s.length),
    ('L', ((lineTexts s).map List.length).foldl max 0)]

def rightAligned (width n : Nat) : List Char :=
  let digits := Nat.toDigits 10 n
  List.replicate (width - digits.length) ' ' ++ digits

/-! ## Order -/

/-- Part of a line that its order depends on. -/
structure SortKey where
  first : Nat × Nat := (1, 1)
  /-- The last field and the last character of it. The last character 0 is that of the field. -/
  last : Option (Nat × Nat) := none
  flags : List Char := []
  deriving Repr

/-- How lines are sorted. -/
structure SortOrder where
  separator : Option Char := none
  keys : List SortKey := []
  flags : List Char := []
  deriving Repr

def isFieldBlank (c : Char) : Bool := c == ' ' || c == '\t'

/-- The fields of a line with what separates them: a field begins with the blanks before it, or ends
before the separator. -/
def sortFields (separator : Option Char) (s : List Char) : List (List Char) :=
  match separator with
  | some c => s.splitOn c
  | none => fields (s.length + 1) s
where
  fields : (fuel : Nat) → List Char → List (List Char)
    | 0, _ | _, [] => []
    | fuel + 1, s =>
      let (blanks, rest) := s.span isFieldBlank
      let (field, rest) := rest.span (!isFieldBlank ·)
      (blanks ++ field) :: fields fuel rest

def SortKey.part (key : SortKey) (order : SortOrder) (s : List Char) : List Char :=
  let fields := sortFields order.separator s
  let width := order.separator.elim 0 fun _ => 1
  let start (field : Nat) : Nat :=
    (fields.take (field - 1)).foldl (fun n f => n + f.length + width) 0
  let blanks (field : Nat) : Nat :=
    if key.flags.contains 'b' || order.flags.contains 'b' then
      (((fields[field - 1]?).getD []).takeWhile isFieldBlank).length
    else 0
  let first := start key.first.1 + blanks key.first.1 + (key.first.2 - 1)
  let last := match key.last with
    | none => s.length
    | some (field, 0) => start field + ((fields[field - 1]?).getD []).length
    | some (field, character) => start field + blanks field + character
  (s.take last).drop first

def leadingNumber (s : List Char) : Bool × Nat × List Char :=
  let s := s.dropWhile isFieldBlank
  let (negative, s) := match s with
    | '-' :: rest => (true, rest)
    | _ => (false, s)
  let (whole, rest) := s.span Char.isDigit
  let decimals := match rest with
    | '.' :: rest => rest.takeWhile Char.isDigit
    | _ => []
  (negative, (takeDigits 10 whole).1, decimals)

def compareNumbers (a b : List Char) : Ordering :=
  let (minusA, wholeA, decimalsA) := leadingNumber a
  let (minusB, wholeB, decimalsB) := leadingNumber b
  let width := max decimalsA.length decimalsB.length
  let value (minus : Bool) (whole : Nat) (decimals : List Char) : Int :=
    let n := (takeDigits 10 (decimals ++ List.replicate (width - decimals.length) '0')).1
    let n : Int := whole * Int.pow 10 width + n
    if minus then -n else n
  compare (value minusA wholeA decimalsA) (value minusB wholeB decimalsB)

def compareTexts : List Char → List Char → Ordering
  | [], [] => .eq
  | [], _ => .lt
  | _, [] => .gt
  | a :: as, b :: bs => (compare a.toNat b.toNat).then (compareTexts as bs)

def compareBy (flags : List Char) (a b : List Char) : Ordering :=
  let found :=
    if flags.contains 'n' || flags.contains 'g' then compareNumbers a b
    else
      let view (s : List Char) : List Char :=
        let s := if flags.contains 'b' then s.dropWhile isFieldBlank else s
        let s := if flags.contains 'd' then s.filter fun c => c.isAlphanum || isFieldBlank c else s
        if flags.contains 'f' then s.map Char.toUpper else s
      compareTexts (view a) (view b)
  if flags.contains 'r' then found.swap else found

def SortOrder.compareKeys (order : SortOrder) (a b : List Char) : Ordering :=
  match order.keys with
  | [] => compareBy order.flags a b
  | keys => keys.foldl (fun found key =>
      let flags := if key.flags.all (· == 'b') then order.flags ++ key.flags else key.flags
      found.then (compareBy flags (key.part order a) (key.part order b))) .eq

/-- Two lines in an order. What the keys do not tell, the whole lines do. -/
def SortOrder.compareLines (order : SortOrder) (a b : List Char) : Ordering :=
  let found := order.compareKeys a b
  if order.flags.contains 's' || order.flags.contains 'u' then found
  else
    let whole := compareTexts a b
    found.then (if order.flags.contains 'r' then whole.swap else whole)

def dropRepeats (same : List Char → List Char → Bool) : List (List Char) → List (List Char)
  | a :: b :: rest =>
    if same a b then dropRepeats same (a :: rest) else a :: dropRepeats same (b :: rest)
  | lines => lines
termination_by lines => lines.length

def SortOrder.sorted (order : SortOrder) (lines : List (List Char)) : List (List Char) :=
  let sorted := lines.mergeSort fun a b => order.compareLines a b != .gt
  if order.flags.contains 'u' then dropRepeats (fun a b => order.compareKeys a b == .eq) sorted
  else sorted

/-- A place in a key: a field, and a character of it if there is a point. -/
def takeKeyPlace (s : List Char) : Nat × Option Nat × List Char :=
  let (field, rest) := s.span Char.isDigit
  match rest with
  | '.' :: rest =>
    let (character, rest) := rest.span Char.isDigit
    (numberIn field, some (numberIn character), rest)
  | _ => (numberIn field, none, rest)

def SortKey.ofText (text : String) : SortKey :=
  let (field, character, rest) := takeKeyPlace text.toList
  let (flags, rest) := rest.span (· != ',')
  match rest with
  | _ :: rest =>
    let (lastField, lastCharacter, more) := takeKeyPlace rest
    { first := (field, character.getD 1), last := some (lastField, lastCharacter.getD 0)
      flags := flags ++ more }
  | [] => { first := (field, character.getD 1), flags }

/-! ## Repeats -/

def runsOf (same : List Char → List Char → Bool) : List (List Char) → List (Nat × List Char)
  | [] => []
  | line :: rest =>
    match runsOf same rest with
    | (n, next) :: runs =>
      if same line next then (n + 1, line) :: runs else (1, line) :: (n, next) :: runs
    | [] => [(1, line)]

/-! ## Pieces of lines -/

/-- Numbers from one to another; without the second one, all from the first on. -/
abbrev NumberRange := Nat × Option Nat

def numberRanges? (text : String) : Option (List NumberRange) :=
  (text.toList.splitOnP fun c => c == ',' || c == ' ').mapM fun part =>
    match part.span Char.isDigit with
    | ([], ['-']) | ([], []) => none
    | (digits, []) => some (numberIn digits, some (numberIn digits))
    | (digits, '-' :: rest) =>
      if !rest.all Char.isDigit then none
      else
        let low := if digits.isEmpty then 1 else numberIn digits
        some (low, if rest.isEmpty then none else some (numberIn rest))
    | _ => none

def inNumberRanges (ranges : List NumberRange) (n : Nat) : Bool :=
  ranges.any fun (low, high) => low ≤ n && high.all (n ≤ ·)

/-- The elements whose numbers, counted from 1, are in ranges. -/
def pickRanges {α : Type} (ranges : List NumberRange) (complement : Bool) (xs : List α) : List α :=
  ((xs.zipIdx 1).filter fun (_, n) => inNumberRanges ranges n != complement).map Prod.fst

/-- Some fields of a line. A line without a delimiter stays as it is, or is left out. -/
def cutFields (delimiter : Char) (output : List Char) (onlyDelimited complement : Bool)
    (ranges : List NumberRange) (line : List Char) : Option (List Char) :=
  if line.contains delimiter then
    some (output.intercalate (pickRanges ranges complement (line.splitOn delimiter)))
  else if onlyDelimited then none
  else some line

/-! ## Exchanging characters -/

/-- The characters that a set is written for. `fuel` bounds the number of its parts. -/
def charSet : (fuel : Nat) → List Char → List Char
  | 0, _ | _, [] => []
  | fuel + 1, '[' :: ':' :: rest =>
    match takeClass ((marksOf .plain rest)) with
    | some (name, after) =>
      let members := ((List.range 256).map Char.ofNat).filter (inClass (String.ofList name))
      members ++ charSet fuel (after.map Mark.char)
    | none => '[' :: charSet fuel (':' :: rest)
  | fuel + 1, s =>
    let single (s : List Char) : Option (Char × List Char) :=
      match s with
      | '\\' :: c :: rest =>
        match c with
        | 'n' => some ('\n', rest)
        | 't' => some ('\t', rest)
        | 'r' => some ('\r', rest)
        | 'a' => some ('\x07', rest)
        | 'f' => some ('\x0c', rest)
        | 'v' => some ('\x0b', rest)
        | _ =>
          let digits := ((c :: rest).take 3).takeWhile fun d => '0' ≤ d && d ≤ '7'
          if digits.isEmpty then some (c, rest)
          else some (Char.ofNat ((takeDigits 8 digits).1 % 256), (c :: rest).drop digits.length)
      | c :: rest => some (c, rest)
      | [] => none
    match single s with
    | none => []
    | some (a, '-' :: rest) =>
      match single rest with
      | some (b, rest) =>
        (List.range (b.toNat + 1 - a.toNat)).map (fun n => Char.ofNat (a.toNat + n)) ++
          charSet fuel rest
      | none => [a, '-']
    | some (a, rest) => a :: charSet fuel rest

/-- How characters are exchanged. -/
structure Exchange where
  source : List Char
  target : List Char := []
  complement : Bool := false
  delete : Bool := false
  squeeze : Bool := false

def squeezed (has : Char → Bool) : List Char → List Char
  | a :: b :: rest =>
    if a == b && has a then squeezed has (b :: rest) else a :: squeezed has (b :: rest)
  | s => s
termination_by s => s.length

def Exchange.apply (x : Exchange) (s : List Char) : List Char :=
  let inSource (c : Char) : Bool := x.source.contains c != x.complement
  if x.delete then
    let s := s.filter (!inSource ·)
    if x.squeeze then squeezed x.target.contains s else s
  else if x.target.isEmpty then squeezed inSource s
  else
    let last := x.target.getLast?.getD ' '
    let pairs := x.source.zip
      (x.target ++ List.replicate (x.source.length - x.target.length) last)
    let replace (c : Char) : Char :=
      if x.complement then if inSource c then last else c
      else (pairs.reverse.lookup c).getD c
    let s := s.map replace
    if x.squeeze then squeezed x.target.contains s else s

/-! ## Searching -/

/-- What is searched for in lines. -/
structure Search where
  expressions : List Regex
  fold : Bool := false
  inverted : Bool := false
  wholeLine : Bool := false
  wholeWord : Bool := false

def literalRegex (s : List Char) : Regex :=
  s.foldr (fun c r => .concat (.exactly c) r) .nothing

def Search.framed (x : Search) (r : Regex) : Regex :=
  if x.wholeLine then .concat (.edge .lineStart) (.concat r (.edge .lineEnd))
  else if x.wholeWord then .concat (.edge .wordStart) (.concat r (.edge .wordEnd))
  else r

def Search.selects (x : Search) (line : List Char) : Bool :=
  (x.expressions.any fun r => ((x.framed r).find? x.fold line.toArray 0).isSome) != x.inverted

def Search.matchesFrom (x : Search) (text : Array Char) : (fuel place : Nat) → List (List Char)
  | 0, _ => []
  | fuel + 1, place =>
    let found := x.expressions.filterMap fun r => (x.framed r).find? x.fold text place
    let best := found.foldl (fun (best : Option Regex.Found) f =>
      match best with
      | some b =>
        if f.first < b.first || (f.first == b.first && b.last < f.last) then some f else best
      | none => some f) none
    match best with
    | none => []
    | some f =>
      if f.last = f.first then
        if f.last < text.size then x.matchesFrom text fuel (f.last + 1) else []
      else (text.extract f.first f.last).toList :: x.matchesFrom text fuel f.last

end RackTraffic.Shell
