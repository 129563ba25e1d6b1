import RackTraffic.Decimal.Reading
import RackTraffic.Decimal.Rounded
import RackTraffic.Shell.Arithmetic

/-!
# Printing

Two commands print their words: one prints them as they are, the other fills them into a *format*.
Both know escapes, which stand for characters that are hard to write. The shell and the program of
the same name differ in which escapes there are and in how they report what is wrong, so there is a
*dialect* for each.

A format is used again until no word is left. The words that are missing at its end count as empty.

Only the machine for scripts (`Shell.host`) needs this module, and only `Main` and test runs need
the machine; no result is about it.
-/

namespace RackTraffic.Shell

/-! ## Escapes -/

/-- The escapes that a text may hold. -/
structure EscapeRules where
  leadingZero : Bool
  /-- Whether a letter `x` begins a hexadecimal number. -/
  hexadecimal : Bool
  canStop : Bool

/-- What an escape stands for. -/
inductive Escape where
  | byte (b : UInt8)
  | stop
  deriving DecidableEq, Repr

/-- The number with at most `count` digits of a base at the start of a text, and what follows. -/
def takeNumber (base count : Nat) (s : List Char) : Option (Nat × List Char) :=
  let digits := (s.take count).takeWhile fun c => (digitOf? base c).isSome
  if digits.isEmpty then none
  else some ((takeDigits base digits).1, s.drop digits.length)

def takeEscape (rules : EscapeRules) : List Char → Option (Escape × List Char)
  | [] => none
  | c :: rest =>
    let byte (n : Nat) : Option (Escape × List Char) := some (.byte n.toUInt8, rest)
    match c with
    | 'a' => byte 7
    | 'b' => byte 8
    | 'e' => byte 27
    | 'f' => byte 12
    | 'n' => byte 10
    | 'r' => byte 13
    | 't' => byte 9
    | 'v' => byte 11
    | '\\' => byte 92
    | 'c' => if rules.canStop then some (.stop, rest) else none
    | 'x' =>
      if rules.hexadecimal then
        (takeNumber 16 2 rest).map fun (n, rest) => (.byte n.toUInt8, rest)
      else none
    | _ =>
      let digits := if rules.leadingZero && c == '0' then rest else c :: rest
      match takeNumber 8 3 digits with
      | some (n, rest) => some (.byte n.toUInt8, rest)
      | none => if c == '0' then byte 0 else none

/-- A text with its escapes replaced, and whether the output ends with it. `fuel` bounds the number
of escapes and other characters. -/
def unescape (rules : EscapeRules) : (fuel : Nat) → List Char → ByteArray → ByteArray × Bool
  | 0, _, done | _, [], done => (done, false)
  | fuel + 1, '\\' :: rest, done =>
    match takeEscape rules rest with
    | some (.byte b, rest) => unescape rules fuel rest (done.push b)
    | some (.stop, _) => (done, true)
    | none => unescape rules fuel rest (done.push 92)
  | fuel + 1, c :: rest, done => unescape rules fuel rest (done ++ c.toString.toUTF8)

/-- The commands that print, as the shell has them and as they are programs of their own. -/
inductive Dialect where
  | builtin
  | program
  deriving DecidableEq, Repr

def Dialect.wordEscapes (dialect : Dialect) : EscapeRules :=
  ⟨true, dialect == .program, true⟩

def Dialect.formatEscapes (dialect : Dialect) : EscapeRules :=
  ⟨false, dialect == .program, dialect == .program⟩

/-! ## Words as they are -/

/-- What is asked for of words to be printed. -/
structure EchoOptions where
  newline : Bool := true
  escapes : Bool

def takeEchoOptions : EchoOptions → List String → EchoOptions × List String
  | options, [] => (options, [])
  | options, word :: rest =>
    match word.toList with
    | '-' :: c :: cs =>
      if (c :: cs).all (['n', 'e', 'E'].contains ·) then
        takeEchoOptions ((c :: cs).foldl (fun options c =>
          match c with
          | 'n' => { options with newline := false }
          | 'e' => { options with escapes := true }
          | _ => { options with escapes := false }) options) rest
      else (options, word :: rest)
    | _ => (options, word :: rest)

/-- The bytes that words are printed as. -/
def echoed (dialect : Dialect) (words : List String) : ByteArray :=
  let (options, words) : EchoOptions × List String :=
    match dialect, words with
    | .builtin, "-n" :: rest => ({ newline := false, escapes := true }, rest)
    | .builtin, _ => ({ escapes := true }, words)
    | .program, _ => takeEchoOptions { escapes := false } words
  let text := " ".intercalate words
  let (bytes, stopped) :=
    if options.escapes then unescape dialect.wordEscapes text.length text.toList .empty
    else (text.toUTF8, false)
  if stopped || !options.newline then bytes else bytes.push 10

/-! ## Formats -/

/-- How the text of a word is laid out. -/
structure FieldLayout where
  flags : List Char
  /-- The least width; if it is not written, a word says it. -/
  width : Option (Option Nat)
  /-- The number of digits or characters; if it is not written, a word says it. -/
  precision : Option (Option Nat)
  deriving Repr

/-- A part of a format. -/
inductive Directive where
  | byte (b : UInt8)
  | stop
  | field (layout : FieldLayout) (conversion : Char)
  | unfit (text : String)
  deriving Repr

/-- A number in a format, or a star, which says that it is a word. -/
def takeCount : List Char → Option (Option Nat) × List Char
  | '*' :: rest => (some none, rest)
  | s =>
    match s.span Char.isDigit with
    | ([], _) => (none, s)
    | (digits, rest) => (some (some (takeDigits 10 digits).1), rest)

/-- A directive after its percent sign, and what follows it. A program skips letters that say how
wide a number is. -/
def takeDirective (dialect : Dialect) (s : List Char) : Directive × List Char :=
  let (flags, rest) := s.span (['-', '+', ' ', '#', '0'].contains ·)
  let (width, rest) := takeCount rest
  let (precision, rest) := match rest with
    | '.' :: rest =>
      let (count, rest) := takeCount rest
      (some (count.getD (some 0)), rest)
    | _ => (none, rest)
  let rest := if dialect == .program then rest.dropWhile ("hlLjtz".toList.contains ·) else rest
  let used := fun (n : Nat) => String.ofList ('%' :: s.take (s.length - rest.length + n))
  match rest with
  | '%' :: rest =>
    if flags = [] && width.isNone && precision.isNone then (.byte 37, rest)
    else (.unfit (used 1), rest)
  | c :: rest =>
    if "bcdiouxXeEfFgGs".toList.contains c then (.field ⟨flags, width, precision⟩ c, rest)
    else (.unfit (used 1), rest)
  | [] => (.unfit (used 0), [])

/-- The directives of a format. `fuel` bounds their number. -/
def directivesOf (dialect : Dialect) : (fuel : Nat) → List Char → List Directive
  | 0, _ | _, [] => []
  | fuel + 1, '%' :: rest =>
    let (directive, rest) := takeDirective dialect rest
    directive :: directivesOf dialect fuel rest
  | fuel + 1, '\\' :: rest =>
    match takeEscape dialect.formatEscapes rest with
    | some (.byte b, rest) => .byte b :: directivesOf dialect fuel rest
    | some (.stop, _) => [.stop]
    | none => .byte 92 :: directivesOf dialect fuel rest
  | fuel + 1, c :: rest =>
    c.toString.toUTF8.toList.map .byte ++ directivesOf dialect fuel rest

/-- What printing words in a format has come to so far. -/
structure Printing where
  words : List String
  bytes : ByteArray := .empty
  complaints : List (Nat × String) := []
  stopped : Bool := false
  /-- Whether a directive was at fault, so that nothing more is printed. -/
  broken : Bool := false

namespace Printing

/-- The next word; nothing if there is none left. -/
def next (p : Printing) : Option String × Printing :=
  (p.words.head?, { p with words := p.words.tail })

def add (p : Printing) (bytes : ByteArray) : Printing := { p with bytes := p.bytes ++ bytes }

def complain (p : Printing) (complaint : String) : Printing :=
  { p with complaints := p.complaints ++ [(p.bytes.size, complaint)] }

def shown (dialect : Dialect) (word : String) : String :=
  match dialect with
  | .builtin => word
  | .program => "'" ++ word ++ "'"

/-- Complain if a word is not a number as a whole: `used` characters of it are. -/
def checkNumber (dialect : Dialect) (word : String) (used : Nat) (outside : Bool) (p : Printing) :
    Printing :=
  let say (wording : String) : Printing := p.complain (shown dialect word ++ ": " ++ wording)
  if word = "" then p
  else if outside then say "Numerical result out of range"
  else if used = 0 then
    say (if dialect == .builtin then "expected numeric value" else "expected a numeric value")
  else if used < word.length then
    say (if dialect == .builtin then "not completely converted"
      else "value not completely converted")
  else p

/-- The integer that the next word stands for. A word that begins with a quote stands for the number
of the character after it. -/
def nextInteger (dialect : Dialect) (p : Printing) : Int × Printing :=
  match p.next with
  | (none, p) => (0, p)
  | (some word, p) =>
    match word.toList with
    | '"' :: rest | '\'' :: rest => ((rest.head?.map fun c => (c.toNat : Int)).getD 0, p)
    | s =>
      let start := s.dropWhile isNumberBlank
      let (negative, digits) := Decimal.takeSign start
      let (n, rest) := takeNatural digits
      let none? := !digits.head?.any Char.isDigit
      let used := if none? then 0 else s.length - rest.length
      let limit : Int := if negative then maxNumber + 1 else maxNumber
      let outside := limit < n
      let value : Int := min n limit
      (if negative then -value else value, p.checkNumber dialect word used outside)

def decimalLength (s : List Char) : Nat :=
  let (_, digits) := Decimal.takeSign s
  let (whole, rest) := digits.span Char.isDigit
  let (fraction, rest) := match rest with
    | '.' :: r => let (fraction, r) := r.span Char.isDigit; (fraction, r)
    | _ => ([], rest)
  if whole = [] ∧ fraction = [] then 0
  else
    let rest := match rest with
      | e :: r =>
        if e == 'e' || e == 'E' then
          let (_, digits) := Decimal.takeSign r
          if digits.head?.any Char.isDigit then digits.dropWhile Char.isDigit else rest
        else rest
      | [] => []
    s.length - rest.length

def nextFloat (dialect : Dialect) (p : Printing) : Float × Printing :=
  match p.next with
  | (none, p) => (0.0, p)
  | (some word, p) =>
    match word.toList with
    | '"' :: rest | '\'' :: rest =>
      ((rest.head?.map fun c => c.toNat.toFloat).getD 0.0, p)
    | s =>
      let start := s.dropWhile isNumberBlank
      match Decimal.readFloat? start with
      | some x => (x, p)
      | none =>
        let used := decimalLength start
        ((Decimal.readFloat? (start.take used)).getD 0.0,
          p.checkNumber dialect word (if used = 0 then 0 else s.length - start.length + used) false)

def count (dialect : Dialect) (written : Option (Option Nat)) (p : Printing) :
    Option Int × Printing :=
  match written with
  | none => (none, p)
  | some (some n) => (some n, p)
  | some none =>
    let (n, p) := p.nextInteger dialect
    (some n, p)

end Printing

def widened (left zeros : Bool) (width : Nat) (sign body : List Char) : List Char :=
  let gap := width - sign.length - body.length
  if left then sign ++ body ++ List.replicate gap ' '
  else if zeros then sign ++ List.replicate gap '0' ++ body
  else List.replicate gap ' ' ++ sign ++ body

def signText (flags : List Char) (negative : Bool) : List Char :=
  if negative then ['-']
  else if flags.contains '+' then ['+']
  else if flags.contains ' ' then [' ']
  else []

def integerParts (flags : List Char) (precision : Option Nat) (conversion : Char) (n : Int) :
    List Char × List Char :=
  let least (digits : List Char) : List Char :=
    if precision = some 0 && digits = ['0'] then [] else Decimal.padded (precision.getD 1) digits
  let word : Nat := (if n < 0 then n + UInt64.size else n).toNat
  let alternate := flags.contains '#'
  match conversion with
  | 'o' =>
    let digits := least (Nat.toDigits 8 word)
    ([], if alternate && digits.head? ≠ some '0' then '0' :: digits else digits)
  | 'x' => (if alternate && word ≠ 0 then ['0', 'x'] else [], least (Nat.toDigits 16 word))
  | 'X' =>
    (if alternate && word ≠ 0 then ['0', 'X'] else [],
      least ((Nat.toDigits 16 word).map Char.toUpper))
  | 'u' => ([], least (Nat.toDigits 10 word))
  | _ => (signText flags (n < 0), least (Nat.toDigits 10 n.natAbs))

def floatParts (flags : List Char) (precision : Nat) (conversion : Char) (x : Float) :
    List Char × List Char × Bool :=
  let alternate := flags.contains '#'
  let cased (s : List Char) : List Char := if conversion.isUpper then s.map Char.toUpper else s
  match Decimal.Binary.ofFloat x with
  | .nan => ([], cased ['n', 'a', 'n'], false)
  | .infinite negative => (signText flags negative, cased ['i', 'n', 'f'], false)
  | .finite negative significand exponent =>
    let r := Decimal.Ratio.ofBinary significand exponent
    let body := match conversion.toLower with
      | 'f' => r.fixed alternate precision
      | 'e' => r.scientific alternate precision
      | _ => r.general alternate precision
    (signText flags negative, cased body, true)

namespace Printing

def addField (dialect : Dialect) (layout : FieldLayout) (conversion : Char) (p : Printing) :
    Printing :=
  let (width, p) := p.count dialect layout.width
  let (precision, p) := p.count dialect layout.precision
  let left := layout.flags.contains '-' || width.any (· < 0)
  let zeros := layout.flags.contains '0'
  let width := (width.map Int.natAbs).getD 0
  let precision := (precision.filter (0 ≤ ·)).map Int.toNat
  let place (zeros : Bool) (sign body : List Char) : ByteArray :=
    (String.ofList (widened left zeros width sign body)).toUTF8
  match conversion with
  | 's' =>
    let (word, p) := p.next
    let s := (word.getD "").toList
    p.add (place false [] (precision.elim s s.take))
  | 'c' =>
    let (word, p) := p.next
    p.add (place false [] ((word.getD "").toList.take 1))
  | 'b' =>
    let (word, p) := p.next
    let word := word.getD ""
    let (bytes, stopped) := unescape dialect.wordEscapes word.length word.toList .empty
    let bytes := precision.elim bytes (bytes.extract 0 ·)
    let gap := (String.ofList (List.replicate (width - bytes.size) ' ')).toUTF8
    { p.add (if left then bytes ++ gap else gap ++ bytes) with stopped := stopped }
  | _ =>
    if "eEfFgG".toList.contains conversion then
      let (x, p) := p.nextFloat dialect
      let (sign, body, fillable) := floatParts layout.flags (precision.getD 6) conversion x
      p.add (place (zeros && fillable) sign body)
    else
      let (n, p) := p.nextInteger dialect
      let (sign, body) := integerParts layout.flags precision conversion n
      p.add (place (zeros && precision.isNone) sign body)

def addDirectives (dialect : Dialect) : List Directive → Printing → Printing
  | [], p => p
  | directive :: rest, p =>
    if p.stopped then p
    else
      match directive with
      | .byte b => addDirectives dialect rest { p with bytes := p.bytes.push b }
      | .stop => { p with stopped := true }
      | .unfit text =>
        { p.complain (match dialect with
            | .builtin => text ++ ": invalid directive"
            | .program => text ++ ": invalid conversion specification") with
          stopped := true, broken := true }
      | .field layout conversion =>
        addDirectives dialect rest (p.addField dialect layout conversion)

def addAll (dialect : Dialect) (directives : List Directive) : (fuel : Nat) → Printing → Printing
  | 0, p => p
  | fuel + 1, p =>
    let q := p.addDirectives dialect directives
    if q.stopped || q.words.isEmpty || q.words.length = p.words.length then q
    else q.addAll dialect directives fuel

def ofFormat (dialect : Dialect) (format : String) (words : List String) : Printing :=
  let directives := directivesOf dialect (format.length + 1) format.toList
  let p : Printing := { words }
  p.addAll dialect directives (words.length + 1)

end Printing

end RackTraffic.Shell
