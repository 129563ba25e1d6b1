import RackTraffic.Diagram.Layout
import RackTraffic.Proofs.Decimal.Exact
import RackTraffic.Proofs.Scenario.Guarded

/-!
# The canvas fits the grid

The canvas has as many columns as the first row has racks, and its last row is that of the last rack
(`Layout.rows_eq`). A *guarded* canvas is computed in words, and as in a guarded batch there is a
check before each operation: the counts of columns and rows are narrowed to 32 bits, and then the
sides are computed in 32 bits. As long as the racks can be counted in 32 bits and the exact sides
fit in 32 bits, every check succeeds (`Layout.canvasGuarded_eq`).

Racks are placed with floats, so what comes out of each operation may be rounded. Integers up to
`2 ^ 53` are not, and on the way to a point of the canvas there are only smaller ones. So it does
not matter how numbers are rounded (`Layout.coordinateRounded_eq`), and the floats that come out are
the integers that should (`Layout.coordinateFloat_eq`).

**Theorem (`Layout.canvas_fitsExactly`).** A canvas whose exact sides fit in 32 bits has just these
sides. All racks stand within its margins, and some racks stand at them.
-/

namespace RackTraffic

/-! ## Words -/

theorem UInt64.toNat_pos_of_ne_zero {a : UInt64} (h : a ≠ 0) : 0 < a.toNat :=
  Nat.pos_of_ne_zero fun hzero => h (UInt64.toNat_inj.mp hzero)

theorem UInt64.toNat_max (a b : UInt64) : (max a b).toNat = max a.toNat b.toNat := by
  rw [show max a b = if a ≤ b then b else a from rfl]
  split_ifs with h
  · exact (Nat.max_eq_right (UInt64.le_iff_toNat_le.mp h)).symm
  · exact (Nat.max_eq_left (Nat.le_of_not_le (UInt64.le_iff_toNat_le.not.mp h))).symm

theorem UInt64.toNat_min (a b : UInt64) : (min a b).toNat = min a.toNat b.toNat := by
  rw [show min a b = if a ≤ b then a else b from rfl]
  split_ifs with h
  · exact (Nat.min_eq_left (UInt64.le_iff_toNat_le.mp h)).symm
  · exact (Nat.min_eq_right (Nat.le_of_not_le (UInt64.le_iff_toNat_le.not.mp h))).symm

/-- The quotient of two words, rounded up. -/
def ceilDivGuarded (a b : UInt64) : Except Trap UInt64 := do
  require (b ≠ 0) .zeroDivisor
  let quotient := a / b
  if 0 < a % b then
    require (quotient.toNat + 1 < UInt64.size) .overflow
    return quotient + 1
  else
    return quotient

/-- A quotient is rounded up just if there is a rest. -/
theorem add_pred_div_eq (a : Nat) {b : Nat} (hb : 0 < b) :
    (a + b - 1) / b = if 0 < a % b then a / b + 1 else a / b := by
  have hrest := Nat.mod_lt a hb
  have hparts := Nat.mod_add_div a b
  split_ifs with h
  · have hsum : a + b - 1 = (a % b - 1) + b * (a / b + 1) := by
      rw [Nat.mul_succ]
      omega
    rw [hsum, Nat.add_mul_div_left _ _ hb, Nat.div_eq_of_lt (by omega), Nat.zero_add]
  · have hsum : a + b - 1 = (b - 1) + b * (a / b) := by omega
    rw [hsum, Nat.add_mul_div_left _ _ hb, Nat.div_eq_of_lt (by omega), Nat.zero_add]

theorem ceilDivGuarded_eq {a b : UInt64} (hb : b ≠ 0) :
    ceilDivGuarded a b = .ok (.ofNat ((a.toNat + b.toNat - 1) / b.toNat)) := by
  have hpos := UInt64.toNat_pos_of_ne_zero hb
  rw [ceilDivGuarded, require_eq_ok hb, add_pred_div_eq _ hpos]
  simp only [bind, Except.bind, UInt64.lt_iff_toNat_lt, UInt64.toNat_mod, UInt64.toNat_div,
    UInt64.toNat_zero]
  split_ifs with hrest
  · -- There is no rest by one, so the quotient is less than `a`, and the next number is a word.
    have hdivisor : 1 < b.toNat := by
      have := Nat.mod_lt a.toNat hpos
      omega
    have hquotient : a.toNat / b.toNat < a.toNat :=
      Nat.div_lt_self (hrest.trans_le (Nat.mod_le _ _)) hdivisor
    have hword : a.toNat / b.toNat + 1 < UInt64.size := Nat.lt_of_le_of_lt hquotient a.toNat_lt
    rw [require_eq_ok hword]
    refine congrArg Except.ok (UInt64.toNat_inj.mp ?_)
    rw [UInt64.toNat_ofNat_of_lt' hword, UInt64.toNat_add, UInt64.toNat_div]
    exact Nat.mod_eq_of_lt hword
  · refine congrArg Except.ok (UInt64.toNat_inj.mp ?_)
    rw [UInt64.toNat_ofNat_of_lt' ((Nat.div_le_self _ _).trans_lt a.toNat_lt), UInt64.toNat_div]

/-- A word of 64 bits as one of 32 bits. -/
def narrowGuarded (a : UInt64) : Except Trap UInt32 := do
  require (a.toNat < UInt32.size) .overflow
  return a.toUInt32

theorem narrowGuarded_eq {a : UInt64} (h : a.toNat < UInt32.size) :
    narrowGuarded a = .ok (.ofNat a.toNat) := by
  rw [narrowGuarded, require_eq_ok h]
  rfl

namespace Layout

open Decimal

variable {layout : Layout} {racks count : Nat}

/-! ## Columns and rows -/

theorem columns_bounds (hrows : layout.racksPerRow ≠ 0) (racks : Nat) :
    0 < layout.columns racks ∧ layout.columns racks ≤ max racks 1 := by
  have hpos := UInt64.toNat_pos_of_ne_zero hrows
  rw [columns]
  omega

/-- The last row is that of the last rack. -/
theorem rows_eq (hrows : layout.racksPerRow ≠ 0) (racks : Nat) :
    layout.rows racks = (max racks 1 - 1) / layout.racksPerRow.toNat + 1 := by
  have hsum : max racks 1 + layout.racksPerRow.toNat - 1 =
      (max racks 1 - 1) + layout.racksPerRow.toNat := by omega
  rw [rows, hsum, Nat.add_div_right _ (UInt64.toNat_pos_of_ne_zero hrows)]

theorem rows_bounds (hrows : layout.racksPerRow ≠ 0) (racks : Nat) :
    0 < layout.rows racks ∧ layout.rows racks ≤ max racks 1 := by
  have hle := Nat.div_le_self (max racks 1 - 1) layout.racksPerRow.toNat
  rw [rows_eq hrows]
  exact ⟨Nat.succ_pos _, Nat.succ_le_of_lt (hle.trans_lt (by omega))⟩

/-- If the racks can be counted in 32 bits, so can the columns and the rows. -/
theorem counts_lt (hrows : layout.racksPerRow ≠ 0) (hracks : racks < UInt32.size) :
    layout.columns racks < UInt32.size ∧ layout.rows racks < UInt32.size := by
  have hmax : max racks 1 < UInt32.size := Nat.max_lt.mpr ⟨hracks, by decide⟩
  exact ⟨(columns_bounds hrows racks).2.trans_lt hmax, (rows_bounds hrows racks).2.trans_lt hmax⟩

/-- Rows are counted by a quotient that is rounded up. -/
theorem rows_eq_ceil (hrows : layout.racksPerRow ≠ 0) (racks : Nat) :
    layout.rows racks = ⌈((max racks 1 : Nat) : ℚ) / layout.racksPerRow.toNat⌉₊ := by
  have hpos := UInt64.toNat_pos_of_ne_zero hrows
  -- Both have the same bounds: as many full rows as take in all racks.
  refine eq_of_forall_ge_iff fun bound => ?_
  rw [Nat.ceil_le, div_le_iff₀ (by exact_mod_cast hpos), rows, Nat.div_le_iff_le_mul_add_pred hpos]
  norm_cast
  rw [Nat.mul_comm]
  omega

/-! ## Sides -/

/-- The width of the canvas, as an exact integer. -/
def exactWidth (layout : Layout) (racks : Nat) : Nat :=
  2 * layout.margin.toNat +
    (min (max racks 1) layout.racksPerRow.toNat - 1) * layout.spacing.toNat

/-- The height of the canvas, as an exact integer. -/
def exactHeight (layout : Layout) (racks : Nat) : Nat :=
  2 * layout.margin.toNat +
    (⌈((max racks 1 : Nat) : ℚ) / layout.racksPerRow.toNat⌉₊ - 1) * layout.spacing.toNat

theorem side_columns (layout : Layout) (racks : Nat) :
    layout.side (layout.columns racks) = layout.exactWidth racks := rfl

theorem side_rows (hrows : layout.racksPerRow ≠ 0) (racks : Nat) :
    layout.side (layout.rows racks) = layout.exactHeight racks := by
  rw [side, rows_eq_ceil hrows, exactHeight]

theorem narrow?_eq_some (hpos : 0 < count) (hcount : count < UInt32.size) :
    narrow? count = some count := by
  rw [narrow?, Nat.mod_eq_of_lt hcount]
  exact if_neg (Nat.pos_iff_ne_zero.mp hpos)

theorem side?_eq_some (hpos : 0 < count) (hcount : count < UInt32.size)
    (hside : layout.side count < UInt32.size) :
    layout.side? count = some (.ofNat (layout.side count)) := by
  rw [side?, narrow?_eq_some hpos hcount]
  exact if_pos hside

/-- The length of a side of the canvas along which `count` racks stand. -/
def sideGuarded (layout : Layout) (count : UInt32) : Except Trap UInt32 := do
  require (2 * layout.margin.toNat < UInt32.size) .overflow
  let margins := 2 * layout.margin
  require (1 ≤ count) .negative
  let gaps := count - 1
  require (gaps.toNat * layout.spacing.toNat < UInt32.size) .overflow
  let between := gaps * layout.spacing
  require (margins.toNat + between.toNat < UInt32.size) .overflow
  return margins + between

theorem sideGuarded_eq (hpos : 0 < count) (hcount : count < UInt32.size)
    (hside : layout.side count < UInt32.size) :
    layout.sideGuarded (.ofNat count) = .ok (.ofNat (layout.side count)) := by
  obtain ⟨a, rfl⟩ : ∃ a : UInt32, a.toNat = count :=
    ⟨.ofNat count, UInt32.toNat_ofNat_of_lt' hcount⟩
  rw [UInt32.ofNat_toNat]
  rw [side] at hside
  have hone : 1 ≤ a := UInt32.le_iff_toNat_le.mpr hpos
  have hgaps : (a - 1).toNat = a.toNat - 1 := UInt32.toNat_sub_of_le a 1 hone
  have hdouble : 2 * layout.margin.toNat < UInt32.size := by omega
  have hproduct : (a - 1).toNat * layout.spacing.toNat < UInt32.size := by
    rw [hgaps]
    omega
  have hmargins : (2 * layout.margin).toNat = 2 * layout.margin.toNat := by
    rw [UInt32.toNat_mul]
    exact Nat.mod_eq_of_lt hdouble
  have hbetween : ((a - 1) * layout.spacing).toNat = (a.toNat - 1) * layout.spacing.toNat := by
    rw [UInt32.toNat_mul, Nat.mod_eq_of_lt hproduct, hgaps]
  have hsum : (2 * layout.margin).toNat + ((a - 1) * layout.spacing).toNat < UInt32.size := by
    rw [hmargins, hbetween]
    exact hside
  have hwords : 2 * layout.margin + (a - 1) * layout.spacing = .ofNat (layout.side a.toNat) := by
    rw [← UInt32.toNat_inj, UInt32.toNat_add, Nat.mod_eq_of_lt hsum, hmargins, hbetween,
      UInt32.toNat_ofNat_of_lt' (n := layout.side a.toNat) hside]
    rfl
  rw [sideGuarded, require_eq_ok hdouble, ← hwords]
  simp only [bind, Except.bind, require_eq_ok hone, require_eq_ok hproduct, require_eq_ok hsum]
  rfl

/-! ## Canvases -/

/-- The canvas of some racks fits in 32 bits, as it is computed. -/
def Fits (layout : Layout) (racks : Nat) : Prop := ∃ size, layout.canvas? racks = some size

theorem exists_side_iff {count : Nat} (hpos : 0 < count) (hcount : count < UInt32.size) :
    (∃ side, layout.side? count = some side) ↔ layout.side count < UInt32.size := by
  by_cases hside : layout.side count < UInt32.size <;>
    simp [side?, narrow?_eq_some hpos hcount, hside]

/-- As long as the racks can be counted in 32 bits, the canvas fits if its exact sides do. -/
theorem fits_iff {racks : Nat} (hrows : layout.racksPerRow ≠ 0) (hracks : racks < UInt32.size) :
    layout.Fits racks ↔
      layout.exactWidth racks < UInt32.size ∧ layout.exactHeight racks < UInt32.size := by
  obtain ⟨hcolumns, hrowCount⟩ := counts_lt hrows hracks
  rw [← side_columns, ← side_rows hrows,
    ← exists_side_iff (columns_bounds hrows racks).1 hcolumns,
    ← exists_side_iff (rows_bounds hrows racks).1 hrowCount]
  simp [Fits, canvas?, Option.bind_eq_some_iff]

theorem not_fits_iff {racks : Nat} : ¬layout.Fits racks ↔ layout.canvas? racks = none := by
  rw [Fits, Option.eq_none_iff_forall_ne_some, not_exists]

/-- The width and height of the canvas. -/
def canvasGuarded (layout : Layout) (rackCount : UInt64) : Except Trap (UInt32 × UInt32) := do
  let count := max rackCount 1
  let columns ← narrowGuarded (min count layout.racksPerRow)
  let rows ← narrowGuarded (← ceilDivGuarded count layout.racksPerRow)
  return (← layout.sideGuarded columns, ← layout.sideGuarded rows)

section

variable {rackCount : UInt64} (hrows : layout.racksPerRow ≠ 0)
  (hracks : rackCount.toNat < UInt32.size)
  (hwidth : layout.exactWidth rackCount.toNat < UInt32.size)
  (hheight : layout.exactHeight rackCount.toNat < UInt32.size)

include hrows hracks hwidth hheight

theorem canvas?_eq_some :
    layout.canvas? rackCount.toNat =
      some (.ofNat (layout.exactWidth rackCount.toNat),
        .ofNat (layout.exactHeight rackCount.toNat)) := by
  obtain ⟨hcolumns, hrowCount⟩ := counts_lt hrows hracks
  rw [← side_columns] at hwidth ⊢
  rw [← side_rows hrows] at hheight ⊢
  rw [canvas?, side?_eq_some (columns_bounds hrows _).1 hcolumns hwidth,
    side?_eq_some (rows_bounds hrows _).1 hrowCount hheight]
  rfl

/-- No number on the way to the sides of the canvas is too large for its word. -/
theorem canvasGuarded_eq :
    layout.canvasGuarded rackCount =
      .ok (.ofNat (layout.exactWidth rackCount.toNat),
        .ofNat (layout.exactHeight rackCount.toNat)) := by
  obtain ⟨hcolumnsLt, hrowsLt⟩ := counts_lt hrows hracks
  have hcount : (max rackCount 1).toNat = max rackCount.toNat 1 := UInt64.toNat_max _ _
  have hcolumns : (min (max rackCount 1) layout.racksPerRow).toNat =
      layout.columns rackCount.toNat := by
    rw [UInt64.toNat_min, hcount, columns]
  have hquotient : ceilDivGuarded (max rackCount 1) layout.racksPerRow =
      .ok (.ofNat (layout.rows rackCount.toNat)) := by
    rw [ceilDivGuarded_eq hrows, hcount, rows]
  have hrowCount : (UInt64.ofNat (layout.rows rackCount.toNat)).toNat =
      layout.rows rackCount.toNat :=
    UInt64.toNat_ofNat_of_lt' (hrowsLt.trans (by decide))
  rw [← side_columns] at hwidth ⊢
  rw [← side_rows hrows] at hheight ⊢
  rw [canvasGuarded]
  simp only [bind, Except.bind, hquotient, narrowGuarded_eq (hcolumns.symm ▸ hcolumnsLt), hcolumns,
    narrowGuarded_eq (hrowCount.symm ▸ hrowsLt), hrowCount,
    sideGuarded_eq (columns_bounds hrows _).1 hcolumnsLt hwidth,
    sideGuarded_eq (rows_bounds hrows _).1 hrowsLt hheight]
  rfl

end

/-! ## Points -/

/-- Racks stand in the columns that are in use. -/
theorem column_lt {rack : Nat} (hrows : layout.racksPerRow ≠ 0) (h : rack < racks) :
    rack % layout.racksPerRow.toNat < layout.columns racks := by
  have hrow := Nat.mod_lt rack (UInt64.toNat_pos_of_ne_zero hrows)
  have hle := Nat.mod_le rack layout.racksPerRow.toNat
  rw [columns]
  omega

/-- Racks stand in the rows that are in use. -/
theorem row_lt {rack : Nat} (hrows : layout.racksPerRow ≠ 0) (h : rack < racks) :
    rack / layout.racksPerRow.toNat < layout.rows racks := by
  rw [rows_eq hrows]
  exact Nat.lt_succ_of_le (Nat.div_le_div_right (by omega))

/-- The places along a side are within its margins. -/
theorem coordinate_le (layout : Layout) {place : Nat} (h : place < count) :
    layout.margin.toNat + place * layout.spacing.toNat + layout.margin.toNat ≤
      layout.side count := by
  have hmul : place * layout.spacing.toNat ≤ (count - 1) * layout.spacing.toNat :=
    Nat.mul_le_mul_right _ (by omega)
  rw [side]
  omega

/-- The last place is at the margin. -/
theorem coordinate_last (layout : Layout) (count : Nat) :
    layout.margin.toNat + (count - 1) * layout.spacing.toNat + layout.margin.toNat =
      layout.side count := by
  rw [side]
  omega

/-- A coordinate of a rack, where numbers are rounded after each operation. -/
def coordinateRounded (layout : Layout) (round : Nat → Nat) (place : Nat) : Nat :=
  round (layout.margin.toNat + round (round place * layout.spacing.toNat))

/-- The point of a rack, where numbers are rounded after each operation. -/
def pointRounded (layout : Layout) (round : Nat → Nat) (rack : Nat) : Nat × Nat :=
  ( layout.coordinateRounded round (rack % layout.racksPerRow.toNat),
    layout.coordinateRounded round (rack / layout.racksPerRow.toNat) )

/-- Along a side that fits in 32 bits there is nothing to round. -/
theorem coordinateRounded_eq {round : Nat → Nat} (hround : ∀ k ≤ exactRange, round k = k)
    {place : Nat} (hplace : place < count) (hcount : count < UInt32.size)
    (hside : layout.side count < UInt32.size) :
    layout.coordinateRounded round place =
      layout.margin.toNat + place * layout.spacing.toNat := by
  have hle := layout.coordinate_le hplace
  have hexact : UInt32.size ≤ exactRange := by decide
  rw [coordinateRounded, hround place (by omega), hround (place * _) (by omega),
    hround _ (by omega)]

/-- A coordinate of a rack, computed with floats. -/
def coordinateFloat (layout : Layout) (place : UInt64) : Float :=
  layout.margin.toFloat + place.toFloat * layout.spacing.toFloat

/-- The point of a rack, computed with floats. -/
def pointFloat (layout : Layout) (rack : UInt64) : Float × Float :=
  ( layout.coordinateFloat (rack % layout.racksPerRow),
    layout.coordinateFloat (rack / layout.racksPerRow) )

/-- Along a side that fits in 32 bits the floats are the integers that they should be. -/
theorem coordinateFloat_eq {place : UInt64} (hplace : place.toNat < count)
    (hcount : count < UInt32.size) (hside : layout.side count < UInt32.size) :
    layout.coordinateFloat place =
      (UInt64.ofNat (layout.margin.toNat + place.toNat * layout.spacing.toNat)).toFloat := by
  have hle := layout.coordinate_le hplace
  have hexact : UInt32.size ≤ exactRange := by decide
  have hword : exactRange ≤ UInt64.size := by decide
  have hspacing : layout.spacing.toUInt64.toNat = layout.spacing.toNat := UInt32.toNat_toUInt64 _
  have hspacingLt : layout.spacing.toNat < UInt32.size := layout.spacing.toNat_lt
  have hproduct : (place * layout.spacing.toUInt64).toNat =
      place.toNat * layout.spacing.toNat := by
    rw [UInt64.toNat_mul, hspacing]
    exact Nat.mod_eq_of_lt (a := place.toNat * layout.spacing.toNat) (b := UInt64.size) (by omega)
  have hmargin : layout.margin.toUInt64.toNat = layout.margin.toNat := UInt32.toNat_toUInt64 _
  have hsum : layout.margin.toUInt64 + place * layout.spacing.toUInt64 =
      .ofNat (layout.margin.toNat + place.toNat * layout.spacing.toNat) := by
    rw [← UInt64.toNat_inj, UInt64.toNat_add, hproduct, hmargin,
      UInt64.toNat_ofNat_of_lt' (Nat.lt_of_lt_of_le (by omega) hword)]
    exact Nat.mod_eq_of_lt (a := layout.margin.toNat + place.toNat * layout.spacing.toNat)
      (b := UInt64.size) (by omega)
  rw [coordinateFloat, ← toFloat_toUInt64, ← toFloat_toUInt64,
    ← toFloat_mul (by omega) (by omega) (by rw [hspacing]; omega),
    ← toFloat_add (by rw [hmargin, hproduct]; omega), hsum]

/-- Racks at the same point are the same. -/
theorem eq_of_point_eq (hspacing : 0 < layout.spacing) {rack other : Nat}
    (h : layout.point rack = layout.point other) : rack = other := by
  have hpos : 0 < layout.spacing.toNat := UInt32.lt_iff_toNat_lt.mp hspacing
  obtain ⟨hx, hy⟩ := Prod.mk.inj h
  have hcolumn := Nat.eq_of_mul_eq_mul_right hpos (Nat.add_left_cancel hx)
  have hrow := Nat.eq_of_mul_eq_mul_right hpos (Nat.add_left_cancel hy)
  rw [← Nat.div_add_mod rack layout.racksPerRow.toNat, hcolumn, hrow, Nat.div_add_mod]

/-! ## Fitting exactly -/

/-- A canvas fits the grid of some racks exactly. -/
structure FitsExactly (layout : Layout) (racks width height : Nat) : Prop where
  /-- A rack stands where its column and its row say, also if numbers are rounded on the way. -/
  point_eq : ∀ rack < racks,
    layout.point rack =
      ( layout.margin.toNat + rack % layout.racksPerRow.toNat * layout.spacing.toNat,
        layout.margin.toNat + rack / layout.racksPerRow.toNat * layout.spacing.toNat ) ∧
    ∀ round : Nat → Nat, (∀ k ≤ exactRange, round k = k) →
      layout.pointRounded round rack = layout.point rack
  /-- Floats give just this point. -/
  pointFloat_eq : ∀ rack : UInt64, rack.toNat < racks →
    layout.pointFloat rack =
      ( (UInt64.ofNat (layout.point rack.toNat).1).toFloat,
        (UInt64.ofNat (layout.point rack.toNat).2).toFloat )
  /-- No rack stands in the margin on the left or on the right. -/
  horizontal : ∀ rack < racks, layout.margin.toNat ≤ (layout.point rack).1 ∧
    (layout.point rack).1 + layout.margin.toNat ≤ width
  /-- No rack stands in the margin at the top or at the bottom. -/
  vertical : ∀ rack < racks, layout.margin.toNat ≤ (layout.point rack).2 ∧
    (layout.point rack).2 + layout.margin.toNat ≤ height
  distinct : 0 < layout.spacing → ∀ rack < racks, ∀ other < racks, rack ≠ other →
    layout.point rack ≠ layout.point other
  /-- Some rack stands at the margin on the right. -/
  right : 0 < racks → ∃ rack < racks, (layout.point rack).1 + layout.margin.toNat = width
  /-- Some rack stands at the margin at the bottom. -/
  bottom : 0 < racks → ∃ rack < racks, (layout.point rack).2 + layout.margin.toNat = height

theorem fitsExactly_side (hrows : layout.racksPerRow ≠ 0) (hracks : racks < UInt32.size)
    (hwidth : layout.side (layout.columns racks) < UInt32.size)
    (hheight : layout.side (layout.rows racks) < UInt32.size) :
    layout.FitsExactly racks (layout.side (layout.columns racks))
      (layout.side (layout.rows racks)) where
  point_eq rack hrack := by
    obtain ⟨hcolumns, hrowCount⟩ := counts_lt hrows hracks
    refine ⟨rfl, fun round hround => ?_⟩
    rw [pointRounded, coordinateRounded_eq hround (column_lt hrows hrack) hcolumns hwidth,
      coordinateRounded_eq hround (row_lt hrows hrack) hrowCount hheight]
    rfl
  pointFloat_eq rack hrack := by
    obtain ⟨hcolumns, hrowCount⟩ := counts_lt hrows hracks
    have hcolumn : (rack % layout.racksPerRow).toNat < layout.columns racks :=
      UInt64.toNat_mod rack _ ▸ column_lt hrows hrack
    have hrow : (rack / layout.racksPerRow).toNat < layout.rows racks :=
      UInt64.toNat_div rack _ ▸ row_lt hrows hrack
    rw [pointFloat, coordinateFloat_eq hcolumn hcolumns hwidth,
      coordinateFloat_eq hrow hrowCount hheight, UInt64.toNat_mod, UInt64.toNat_div]
    rfl
  horizontal rack hrack := ⟨Nat.le_add_right _ _, layout.coordinate_le (column_lt hrows hrack)⟩
  vertical rack hrack := ⟨Nat.le_add_right _ _, layout.coordinate_le (row_lt hrows hrack)⟩
  distinct hspacing rack _ other _ hne heq := hne (eq_of_point_eq hspacing heq)
  right hpos := by
    -- The first row is as long as any.
    have hpositive := (columns_bounds hrows racks).1
    have hperRow : layout.columns racks ≤ layout.racksPerRow.toNat := Nat.min_le_right _ _
    have hle : layout.columns racks ≤ racks := by
      rw [columns]
      omega
    refine ⟨layout.columns racks - 1, by omega, ?_⟩
    rw [point, Nat.mod_eq_of_lt (by omega), coordinate_last]
  bottom hpos := by
    -- The last rack stands in the last row.
    refine ⟨racks - 1, by omega, ?_⟩
    have hlast : (racks - 1) / layout.racksPerRow.toNat = layout.rows racks - 1 := by
      rw [rows_eq hrows, Nat.add_sub_cancel, Nat.max_eq_left hpos]
    rw [point, hlast, coordinate_last]

/-- **The canvas fits the grid exactly.** If the racks can be counted in 32 bits and the exact sides
of the canvas fit in 32 bits, then these are its sides, and no number on the way to them is too
large for its word. Every rack has its exact point on the grid, different racks have different
points if there is any space between neighbours, and the margins are kept free, but not more. -/
theorem canvas_fitsExactly {rackCount : UInt64} (hrows : layout.racksPerRow ≠ 0)
    (hracks : rackCount.toNat < UInt32.size)
    (hwidth : layout.exactWidth rackCount.toNat < UInt32.size)
    (hheight : layout.exactHeight rackCount.toNat < UInt32.size) :
    ∃ width height : UInt32,
      width.toNat = layout.exactWidth rackCount.toNat ∧
      height.toNat = layout.exactHeight rackCount.toNat ∧
      layout.canvas? rackCount.toNat = some (width, height) ∧
      layout.canvasGuarded rackCount = .ok (width, height) ∧
      layout.FitsExactly rackCount.toNat width.toNat height.toNat := by
  have hwidthWord := UInt32.toNat_ofNat_of_lt' hwidth
  have hheightWord := UInt32.toNat_ofNat_of_lt' hheight
  refine ⟨_, _, hwidthWord, hheightWord, canvas?_eq_some hrows hracks hwidth hheight,
    canvasGuarded_eq hrows hracks hwidth hheight, ?_⟩
  rw [hwidthWord, hheightWord, ← side_columns, ← side_rows hrows]
  exact fitsExactly_side hrows hracks hwidth (side_rows hrows _ ▸ hheight)

/-- A layout on which a full row of racks is as wide as a canvas can be. -/
def widest : Layout := { spacing := 1000000001, margin := 647483646 }

/-- Six racks on the widest canvas there is. The last of them is in the second row, which it does
not fill. Its point is the same whether numbers are rounded as floats are, or floats are computed.
-/
theorem canvas_fitsExactly_widest :
    widest.racksPerRow ≠ 0 ∧ (6 : UInt64).toNat < UInt32.size ∧
      widest.exactWidth (6 : UInt64).toNat = 4294967295 ∧
      widest.exactHeight (6 : UInt64).toNat = 2294967293 ∧
      widest.canvas? (6 : UInt64).toNat = some (4294967295, 2294967293) ∧
      widest.canvasGuarded 6 = .ok (4294967295, 2294967293) ∧
      widest.FitsExactly 6 4294967295 2294967293 ∧
      widest.point 5 = (1647483647, 1647483647) ∧
      widest.pointRounded roundFloat 5 = (1647483647, 1647483647) ∧
      widest.pointFloat 5 = ((1647483647 : UInt64).toFloat, (1647483647 : UInt64).toFloat) := by
  have hrows : widest.racksPerRow ≠ 0 := by decide
  have hracks : (6 : UInt64).toNat < UInt32.size := by decide
  have hwidth : widest.exactWidth (6 : UInt64).toNat = 4294967295 := by decide
  have hheight : widest.exactHeight (6 : UInt64).toNat = 2294967293 := by
    rw [← side_rows hrows]
    decide
  obtain ⟨width, height, hwidthWord, hheightWord, hcanvas, hguarded, hfits⟩ :=
    canvas_fitsExactly hrows hracks (by rw [hwidth]; decide) (by rw [hheight]; decide)
  rw [hwidth] at hwidthWord
  rw [hheight] at hheightWord
  obtain rfl : width = 4294967295 := UInt32.toNat_inj.mp hwidthWord
  obtain rfl : height = 2294967293 := UInt32.toNat_inj.mp hheightWord
  have hpoint : widest.point 5 = (1647483647, 1647483647) := by decide
  refine ⟨hrows, hracks, hwidth, hheight, hcanvas, hguarded, hfits, hpoint, ?_, ?_⟩
  · rw [(hfits.point_eq 5 (by decide)).2 roundFloat fun k => roundFloat_eq, hpoint]
  · have hfloat := hfits.pointFloat_eq 5 (by decide)
    rwa [show (5 : UInt64).toNat = 5 from rfl, hpoint] at hfloat

end Layout

end RackTraffic
