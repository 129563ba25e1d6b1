import Mathlib.Data.Prod.Lex
import Mathlib.Order.Basic
import Mathlib.Algebra.Order.Ring.Int

/-!
# The order of floats

Floats that are numbers are ordered by a *rank*: first by their class, from negative infinity
through the negative numbers, the zeros and the positive numbers to positive infinity, then by
exponent and significand. Of two numbers the one is at most the other, or less than it, if the rank
of the one is (`le_iff`, `lt_iff`). Ranks are in a linear order, so any two numbers can be compared
(`not_le_iff`). Numbers are not in a linear order themselves, because the zeros of both signs have
the same rank.
-/

namespace RackTraffic.Decimal

open Float.Model

/-- The rank of a float that has been taken apart. For what is not a number it says nothing. -/
def rankOf : UnpackedFloat → ℤ ×ₗ ℤ ×ₗ ℤ
  | .infinity .negative => toLex (-2, toLex (0, 0))
  | .finite .negative significand exponent _ => toLex (-1, toLex (-exponent, -significand))
  | .zero _ | .notANumber => toLex (0, toLex (0, 0))
  | .finite .positive significand exponent _ => toLex (1, toLex (exponent, significand))
  | .infinity .positive => toLex (2, toLex (0, 0))

/-- The rank of a float. -/
def rank (x : Float) : ℤ ×ₗ ℤ ×ₗ ℤ := rankOf x.toModel.unpack

theorem compare_neg_neg (a b : ℤ) : compare (-a) (-b) = (compare a b).swap := by
  have hanti : StrictAnti fun n : ℤ => -n := fun _ _ h => neg_lt_neg h
  rw [← cmp_eq_compare, ← cmp_eq_compare, cmp_swap]
  exact hanti.cmp_map_eq a b

theorem compare_natCast (m n : ℕ) : compare (m : ℤ) n = compare m n := by
  rw [← cmp_eq_compare, ← cmp_eq_compare]
  exact Int.natCast_strictMono.cmp_map_eq m n

/-- Numbers compare as their ranks do. -/
theorem compare_eq_compare_rankOf {x y : UnpackedFloat} (hx : x.isNaN = false)
    (hy : y.isNaN = false) : x.compare y = some (compare (rankOf x) (rankOf y)) := by
  rcases x with ⟨_ | _⟩ | _ | _ | ⟨_ | _, m, e, hm⟩ <;>
    rcases y with ⟨_ | _⟩ | _ | _ | ⟨_ | _, m', e', hm'⟩ <;> cases hx <;> cases hy
  case finite.negative.finite.negative =>
    show some ((compare e e').then (compare m m')).swap =
      some ((compare (-e) (-e')).then (compare (-(m : ℤ)) (-m')))
    rw [compare_neg_neg, compare_neg_neg, compare_natCast, Ordering.swap_then]
  case finite.positive.finite.positive =>
    show some ((compare e e').then (compare m m')) =
      some ((compare e e').then (compare (m : ℤ) m'))
    rw [compare_natCast]
  -- Floats of different classes are told apart by these.
  all_goals rfl

variable {x y : Float} (hx : x.isNaN = false) (hy : y.isNaN = false)
include hx hy

theorem le_iff : x ≤ y ↔ rank x ≤ rank y := by
  have hmodel : x ≤ y ↔ (x.toModel.unpack.compare y.toModel.unpack).any (·.isLE) = true :=
    decide_eq_true_iff
  rw [hmodel, compare_eq_compare_rankOf hx hy, Option.any_some, Ordering.isLE_iff_ne_gt]
  exact compare_le_iff_le

theorem lt_iff : x < y ↔ rank x < rank y := by
  have hmodel : x < y ↔ (x.toModel.unpack.compare y.toModel.unpack == some .lt) = true :=
    decide_eq_true_iff
  rw [hmodel, compare_eq_compare_rankOf hx hy, beq_iff_eq, Option.some.injEq]
  exact compare_lt_iff_lt

theorem not_le_iff : ¬x ≤ y ↔ y < x := by
  rw [le_iff hx hy, lt_iff hy hx, not_le]

theorem lt_of_le_of_lt {z : Float} (hz : z.isNaN = false) (hxy : x ≤ y) (hyz : y < z) : x < z := by
  rw [le_iff hx hy] at hxy
  rw [lt_iff hy hz] at hyz
  exact (lt_iff hx hz).mpr (hxy.trans_lt hyz)

theorem le_of_lt (hxy : x < y) : x ≤ y := by
  rw [lt_iff hx hy] at hxy
  exact (le_iff hx hy).mpr hxy.le

end RackTraffic.Decimal
