import RackTraffic.Draw.Source

/-!
# Drawing below a bound

A word `w` of `b` bits is turned into a number below `n` by taking the high part of `w * n`. Some
numbers would come up once more often than others; so a word is refused if the low part of the
product lies beyond a *zone* whose size is a multiple of `n`.

Two zones are in use. The exact one is the largest possible. The quick one, for a range that is
used once, is `n` shifted left as far as it goes, which needs no division.
-/

namespace RackTraffic.Draw

variable {σ : Type}

/-- The number below `n` that a word of `bits` bits is turned into, unless it is refused. -/
def scale? (bits n zone word : Nat) : Option Nat :=
  let product := word * n
  if product % (1 <<< bits) ≤ zone then some (product >>> bits) else none

/-- The end of the largest zone for `n`. -/
def exactZone (bits n : Nat) : Nat := (1 <<< bits) - 1 - ((1 <<< bits) - n) % n

/-- The end of the zone that shifting `n` gives. -/
def quickZone (bits n : Nat) : Nat := (n <<< (bits - 1 - n.log2)) - 1

theorem lt_of_scale?_eq_some {bits n zone word v : Nat} (hn : 0 < n) (hw : word < 1 <<< bits)
    (h : scale? bits n zone word = some v) : v < n := by
  simp only [scale?] at h
  split at h
  · obtain rfl := Option.some.inj h
    rw [Nat.one_shiftLeft] at hw
    rw [Nat.shiftRight_eq_div_pow]
    exact Nat.div_lt_of_lt_mul (Nat.mul_lt_mul_of_pos_right hw hn)
  · simp at h

def range [WordSource σ] (low high : Nat) : Draw σ Nat :=
  let n := high - low + 1
  (low + ·) <$> until32 fun w => scale? 32 n (quickZone 32 n) w.toNat

end RackTraffic.Draw
