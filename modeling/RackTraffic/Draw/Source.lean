/-!
# Sources of random words

Everything that is drawn at random is made from words, and what matters about a source of words is
which word comes next. A source is a state with two steps, one that yields a word of 32 bits and
one that yields a word of 64 bits.

Drawing can go on forever: a rule that refuses some words and asks for more never ends on a source
that yields only refused words. Such a draw gives nothing.
-/

namespace RackTraffic

/-- States from which random words can be drawn. -/
class WordSource (σ : Type) where
  word32 : σ → UInt32 × σ
  word64 : σ → UInt64 × σ

/-- A computation that draws words from a source in state `σ`. It gives nothing if its source never
yields a word that it accepts. -/
abbrev Draw (σ α : Type) := StateT σ Option α

namespace Draw

variable {σ α : Type}

/-- Values that are drawn one after another until one of them is accepted. -/
structure Trials (σ ω α : Type) where
  next : σ → ω × σ
  accept : ω → Option α

/-- Take the first value that is accepted. -/
def Trials.first {ω : Type} (trials : Trials σ ω α) : Draw σ α := fun s =>
  let (w, s) := trials.next s
  match trials.accept w with
  | some a => some (a, s)
  | none => trials |>.first s
partial_fixpoint

def until32 [WordSource σ] (accept : UInt32 → Option α) : Draw σ α :=
  Trials.first ⟨WordSource.word32, accept⟩

def until64 [WordSource σ] (accept : UInt64 → Option α) : Draw σ α :=
  Trials.first ⟨WordSource.word64, accept⟩

end Draw

end RackTraffic
