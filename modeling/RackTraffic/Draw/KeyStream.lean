import RackTraffic.Draw.Source

/-!
# Key streams

The standard source of words is the key stream of the ChaCha cipher with twelve rounds: a key and a
block counter determine sixteen words, and the blocks follow one another. A word of 64 bits is made
of the next two words, the low one first, even if a new block begins between them.

A block is worked on as four rows of four words. A round adds, exclusive-ors and rotates whole rows.
Rounds over the columns alternate with rounds over the diagonals, which are the columns after the
rows have been turned against each other.

The key is expanded from a seed of 64 bits by a linear congruential generator whose output is
scrambled.
-/

namespace RackTraffic

structure Row where
  a : UInt32
  b : UInt32
  c : UInt32
  d : UInt32
  deriving DecidableEq, Repr, Inhabited

namespace Row

def zip (f : UInt32 → UInt32 → UInt32) (x y : Row) : Row :=
  ⟨f x.a y.a, f x.b y.b, f x.c y.c, f x.d y.d⟩

def map (f : UInt32 → UInt32) (x : Row) : Row := ⟨f x.a, f x.b, f x.c, f x.d⟩

def turn (x : Row) : Row := ⟨x.b, x.c, x.d, x.a⟩

def toList (x : Row) : List UInt32 := [x.a, x.b, x.c, x.d]

end Row

/-- Rotate a word to the left; `n` must be between 1 and 31. -/
def rotateLeft (n : UInt32) (x : UInt32) : UInt32 := (x <<< n) ||| (x >>> (32 - n))

def rotateRight (n : UInt32) (x : UInt32) : UInt32 :=
  if n = 0 then x else (x >>> n) ||| (x <<< (32 - n))

structure Block where
  r₀ : Row
  r₁ : Row
  r₂ : Row
  r₃ : Row
  deriving DecidableEq, Repr, Inhabited

namespace Block

/-- Add a row to another, exclusive-or the sum into a third and rotate that one. -/
def mix (n : UInt32) (x y z : Row) : Row × Row :=
  let x := Row.zip (· + ·) x y
  (x, (Row.zip (· ^^^ ·) z x).map (rotateLeft n))

def columnRound (s : Block) : Block :=
  let (r₀, r₃) := mix 16 s.r₀ s.r₁ s.r₃
  let (r₂, r₁) := mix 12 s.r₂ r₃ s.r₁
  let (r₀, r₃) := mix 8 r₀ r₁ r₃
  let (r₂, r₁) := mix 7 r₂ r₃ r₁
  ⟨r₀, r₁, r₂, r₃⟩

def diagonalRound (s : Block) : Block :=
  let t := columnRound ⟨s.r₀, s.r₁.turn, s.r₂.turn.turn, s.r₃.turn.turn.turn⟩
  ⟨t.r₀, t.r₁.turn.turn.turn, t.r₂.turn.turn, t.r₃.turn⟩

/-- `n` pairs of rounds. -/
def rounds : Nat → Block → Block
  | 0, s => s
  | n + 1, s => rounds n (diagonalRound (columnRound s))

def add (s t : Block) : Block :=
  ⟨Row.zip (· + ·) s.r₀ t.r₀, Row.zip (· + ·) s.r₁ t.r₁, Row.zip (· + ·) s.r₂ t.r₂,
    Row.zip (· + ·) s.r₃ t.r₃⟩

def toList (s : Block) : List UInt32 :=
  s.r₀.toList ++ s.r₁.toList ++ s.r₂.toList ++ s.r₃.toList

end Block

structure Key where
  low : Row
  high : Row
  deriving DecidableEq, Repr, Inhabited

/-- The words with which every block starts. -/
def Key.constants : Row := ⟨0x61707865, 0x3320646e, 0x79622d32, 0x6b206574⟩

def Key.block (key : Key) (number : UInt64) : Block :=
  let start : Block :=
    ⟨constants, key.low, key.high, ⟨number.toUInt32, (number >>> 32).toUInt32, 0, 0⟩⟩
  (Block.rounds 6 start).add start

/-- One step of the generator that expands seeds: a word and the next state. -/
def expandStep (state : UInt64) : UInt32 × UInt64 :=
  let state := state * 6364136223846793005 + 11634580027462260723
  let scrambled := (((state >>> 18) ^^^ state) >>> 27).toUInt32
  (rotateRight (state >>> 59).toUInt32 scrambled, state)

def expandRow (state : UInt64) : Row × UInt64 :=
  let (a, state) := expandStep state
  let (b, state) := expandStep state
  let (c, state) := expandStep state
  let (d, state) := expandStep state
  (⟨a, b, c, d⟩, state)

def Key.ofSeed (seed : UInt64) : Key :=
  let (low, state) := expandRow seed
  let (high, _) := expandRow state
  ⟨low, high⟩

/-- A position in a key stream. -/
structure KeyStream where
  key : Key
  /-- The number of the block after the pending words. -/
  next : UInt64
  /-- The words of the present block that have not been drawn. -/
  pending : List UInt32
  deriving DecidableEq, Repr

namespace KeyStream

def ofSeed (seed : UInt64) : KeyStream := ⟨.ofSeed seed, 0, []⟩

def word (s : KeyStream) : UInt32 × KeyStream :=
  match s.pending with
  | w :: rest => (w, { s with pending := rest })
  | [] =>
    match (s.key.block s.next).toList with
    | w :: rest => (w, { s with next := s.next + 1, pending := rest })
    | [] => (0, s)

/-- The next two words as one. -/
def doubleWord (s : KeyStream) : UInt64 × KeyStream :=
  let (low, s) := s.word
  let (high, s) := s.word
  (high.toUInt64 <<< 32 ||| low.toUInt64, s)

instance : WordSource KeyStream := ⟨word, doubleWord⟩

end KeyStream

end RackTraffic
