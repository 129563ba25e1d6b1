import RackTraffic.Draw.KeyStream

/-!
# A small source of words

A counter that advances by a fixed odd step and whose value is scrambled by shifts and
multiplications. It yields words of 64 bits; a word of 32 bits is the high half of a fresh one.

`Generator` is either this source or a key stream.
-/

namespace RackTraffic

/-- A scrambled counter. -/
structure SplitMix where
  state : UInt64
  deriving DecidableEq, Repr

namespace SplitMix

def doubleWord (s : SplitMix) : UInt64 × SplitMix :=
  let state := s.state + 0x9e3779b97f4a7c15
  let z := (state ^^^ (state >>> 30)) * 0xbf58476d1ce4e5b9
  let z := (z ^^^ (z >>> 27)) * 0x94d049bb133111eb
  (z ^^^ (z >>> 31), ⟨state⟩)

def word (s : SplitMix) : UInt32 × SplitMix :=
  let (w, s) := s.doubleWord
  ((w >>> 32).toUInt32, s)

instance : WordSource SplitMix := ⟨word, doubleWord⟩

end SplitMix

/-- A source of words of either kind. -/
inductive Generator where
  | keyStream (state : KeyStream)
  | splitMix (state : SplitMix)
  deriving DecidableEq, Repr

namespace Generator

def word : Generator → UInt32 × Generator
  | .keyStream s => (s.word.1, .keyStream s.word.2)
  | .splitMix s => (s.word.1, .splitMix s.word.2)

def doubleWord : Generator → UInt64 × Generator
  | .keyStream s => (s.doubleWord.1, .keyStream s.doubleWord.2)
  | .splitMix s => (s.doubleWord.1, .splitMix s.doubleWord.2)

instance : WordSource Generator := ⟨word, doubleWord⟩

end Generator

end RackTraffic
