import RackTraffic.Draw.Range
import Std.Data.HashSet

/-!
# Drawing without replacement

`sample n k` draws `k` different numbers below `n`, in random order. Which way is fastest depends on
the sizes, and the sequence of words decides the outcome, so the choice among the ways is part of
the definition:

* *in place*: shuffle the first `k` places of the list of all numbers, when that list is short;
* *one pass*: go through the last `k` candidates `j`, drawing a number up to each and taking it, or
  `j` itself if it was drawn before. Every result is then shuffled, either by where `j` is put or,
  for many numbers, by a shuffle at the end;
* *rejection*: draw numbers and draw again those that were drawn before, when `k` is large but
  small against `n`. Populations that do not fit in 32 bits are always sampled so.
-/

namespace RackTraffic.Draw

variable {σ : Type} [WordSource σ]

/-! ## In place -/

/-- Exchange place `i` and the `steps - 1` places after it each with a random place at or behind
it. -/
def shuffleFront : (steps i : Nat) → Array Nat → Draw σ (Array Nat)
  | 0, _, a => pure a
  | steps + 1, i, a => do
    let j ← range i (a.size - 1)
    shuffleFront steps (i + 1) (a.swapIfInBounds i j)

/-- Draw `amount` numbers below `population` from the list of all of them. -/
def sampleInPlace (population amount : Nat) : Draw σ (List Nat) := do
  let a ← shuffleFront amount 0 (Array.range population)
  return a.toList.take amount

/-! ## One pass -/

def insertBefore (mark x : Nat) : List Nat → List Nat
  | [] => []
  | y :: rest => if y = mark then x :: y :: rest else y :: insertBefore mark x rest

/-- Put a number before the one whose place it takes, or a fresh one at the end. -/
def placeInside (drawn : List Nat) (j t : Nat) : List Nat :=
  if t ∈ drawn then insertBefore t j drawn else drawn ++ [t]

def placeLast (drawn : List Nat) (j t : Nat) : List Nat :=
  drawn ++ [if t ∈ drawn then j else t]

/-- Draw a number up to each of the candidates `j`, `j + 1`, …, of which there are `steps`. -/
def onePass (place : List Nat → Nat → Nat → List Nat) :
    (steps j : Nat) → List Nat → Draw σ (List Nat)
  | 0, _, drawn => pure drawn
  | steps + 1, j, drawn => do
    let t ← range 0 j
    onePass place steps (j + 1) (place drawn j t)

/-- Exchange each of the places `i`, `i - 1`, …, 1 with a random place at or before it. -/
def shuffleBack : (i : Nat) → Array Nat → Draw σ (Array Nat)
  | 0, a => pure a
  | i + 1, a => do
    let j ← range 0 (i + 1)
    shuffleBack i (a.swapIfInBounds (i + 1) j)

/-- From this amount on, one pass ends with a shuffle. -/
def shuffledAmount : Nat := 50

/-- Draw `amount` numbers below `population` in one pass. -/
def sampleOnePass (population amount : Nat) : Draw σ (List Nat) := do
  if amount < shuffledAmount then
    onePass placeInside amount (population - amount) []
  else
    let drawn ← onePass placeLast amount (population - amount) []
    return (← shuffleBack (amount - 1) drawn.toArray).toList

/-! ## Rejection -/

def fresh (next : Std.HashSet Nat → Draw σ Nat) :
    (amount : Nat) → Std.HashSet Nat → Draw σ (List Nat)
  | 0, _ => pure []
  | amount + 1, seen => do
    let v ← next seen
    return v :: (← fresh next amount (seen.insert v))

def unseen? (seen : Std.HashSet Nat) (v : Option Nat) : Option Nat :=
  v.filter fun v => !seen.contains v

/-- Draw `amount` numbers below `population` by rejection, from words of 32 bits. -/
def sampleRejecting32 (population amount : Nat) : Draw σ (List Nat) :=
  let zone := exactZone 32 population
  fresh (fun seen => until32 fun w => unseen? seen (scale? 32 population zone w.toNat)) amount ∅

def sampleRejecting64 (population amount : Nat) : Draw σ (List Nat) :=
  let zone := exactZone 64 population
  fresh (fun seen => until64 fun w => unseen? seen (scale? 64 population zone w.toNat)) amount ∅

/-! ## The choice -/

inductive Way where
  | inPlace
  | onePass
  | rejecting32
  | rejecting64
  deriving DecidableEq, Repr

def smallPopulation : Nat := 500000

/-- Amounts below this one are never drawn by rejection from 32 bits. -/
def rejectedAmount : Nat := 163

/-- The way to draw `amount` numbers below `population`. The estimates are made in single
precision. -/
def way (population amount : Nat) : Way :=
  let small := population < smallPopulation
  let n := Float32.ofNat population
  let k := Float32.ofNat amount
  if UInt32.size ≤ population then .rejecting64
  else if amount < rejectedAmount then
    let slope : Float32 := if small then 1.6 else 8.0 / 45.0
    let base : Float32 := if small then 10.0 else 70.0 / 9.0
    if 11 < amount ∧ n < (base + slope * k) * k then .inPlace else .onePass
  else
    let share : Float32 := if small then 270.0 else 330.0 / 9.0
    if n < share * k then .inPlace else .rejecting32

/-- Draw `amount` different numbers below `population`. The amount must not exceed the
population. -/
def sample (population amount : Nat) : Draw σ (List Nat) :=
  match way population amount with
  | .inPlace => sampleInPlace population amount
  | .onePass => sampleOnePass population amount
  | .rejecting32 => sampleRejecting32 population amount
  | .rejecting64 => sampleRejecting64 population amount

end RackTraffic.Draw
