import Mathlib
/-!
# The order of floating-point numbers

Floating-point numbers that are not NaN stand in a row, both zeros at one place: what is less, and
what is at most, is told by sign, exponent and mantissa in this order.
-/
namespace Telemetry.Floats

open Float.Model

/-- The place of an unpacked float in the row. -/
def rank : UnpackedFloat → ℤ ×ₗ ℤ ×ₗ ℤ
  | .infinity .negative => toLex (-2, toLex (0, 0))
  | .finite .negative m e _ => toLex (-1, toLex (-e, -m))
  | .zero _ | .notANumber => toLex (0, toLex (0, 0))
  | .finite .positive m e _ => toLex (1, toLex (e, m))
  | .infinity .positive => toLex (2, toLex (0, 0))

private theorem compare_toLex (a b c a' b' c' : ℤ) :
    compare (toLex (a, toLex (b, c))) (toLex (a', toLex (b', c'))) =
      (compare a a').then ((compare b b').then (compare c c')) := by
  rw [Prod.Lex.compare_def, compareLex, compareOn, compareOn]
  simp only [ofLex_toLex]
  rw [Prod.Lex.compare_def, compareLex, compareOn, compareOn]
  rfl

private theorem compare_neg_neg (a b : ℤ) : compare (-a) (-b) = (compare a b).swap := by
  rw [Int.compare_swap]
  simp only [compare, compareOfLessAndEq, Int.neg_lt_neg_iff, Int.neg_inj, eq_comm]

private theorem compare_natCast (m n : ℕ) : compare (m : ℤ) n = compare m n := by
  simp only [compare, compareOfLessAndEq, Int.ofNat_lt, Int.ofNat_inj]

theorem compare_finite (s t : UnpackedFloat.Sign) (m n : ℕ) (e f : ℤ) (hm : 0 < m) (hn : 0 < n) :
    (UnpackedFloat.finite s m e hm).compare (.finite t n f hn) =
      some (compare (rank (.finite s m e hm)) (rank (.finite t n f hn))) := by
  cases s with
  | negative =>
    cases t with
    | negative =>
      rw [rank, rank, compare_toLex, compare_neg_neg e, compare_neg_neg m, compare_natCast,
        ← Ordering.swap_then]
      rfl
    | positive => rfl
  | positive =>
    cases t with
    | negative => rfl
    | positive =>
      rw [rank, rank, compare_toLex, compare_natCast]
      rfl

theorem compare_eq {x y : UnpackedFloat} (hx : x.isNaN = false) (hy : y.isNaN = false) :
    x.compare y = some (compare (rank x) (rank y)) := by
  cases x with
  | notANumber => cases hx
  | infinity s =>
    cases y with
    | notANumber => cases hy
    | infinity t => cases s <;> cases t <;> rfl
    | zero t => cases s <;> rfl
    | finite t n f hn => cases s <;> cases t <;> rfl
  | zero s =>
    cases y with
    | notANumber => cases hy
    | infinity t => cases t <;> rfl
    | zero t => rfl
    | finite t n f hn => cases t <;> rfl
  | finite s m e hm =>
    cases y with
    | notANumber => cases hy
    | infinity t => cases s <;> cases t <;> rfl
    | zero t => cases s <;> rfl
    | finite t n f hn => exact compare_finite s t m n e f hm hn

variable {x y z : Float} (hx : x.isNaN = false) (hy : y.isNaN = false) (hz : z.isNaN = false)

section
include hx hy

theorem lt_iff_rank : x < y ↔ rank x.toModel.unpack < rank y.toModel.unpack := by
  have hlt : x < y ↔ (x.toModel.unpack.compare y.toModel.unpack == some .lt) = true :=
    decide_eq_true_iff
  rw [hlt, compare_eq hx hy, beq_iff_eq, Option.some_inj, compare_lt_iff_lt]

theorem le_iff_rank : x ≤ y ↔ rank x.toModel.unpack ≤ rank y.toModel.unpack := by
  have hle : x ≤ y ↔ (x.toModel.unpack.compare y.toModel.unpack).any (·.isLE) = true :=
    decide_eq_true_iff
  rw [hle, compare_eq hx hy, Option.any_some, Ordering.isLE_iff_ne_gt, compare_gt_iff_gt,
    not_lt]

theorem beq_iff_rank : (x == y) = true ↔ rank x.toModel.unpack = rank y.toModel.unpack := by
  have hbeq : (x == y) = true ↔ (x.toModel.unpack.compare y.toModel.unpack == some .eq) = true :=
    Iff.rfl
  rw [hbeq, compare_eq hx hy, beq_iff_eq, Option.some_inj, compare_eq_iff_eq]

theorem beq_of_le_of_le (h : x ≤ y) (h' : y ≤ x) : (x == y) = true := by
  rw [le_iff_rank hx hy] at h
  rw [le_iff_rank hy hx] at h'
  exact (beq_iff_rank hx hy).2 (le_antisymm h h')

theorem le_of_not_lt (h : ¬ x < y) : y ≤ x := by
  rw [lt_iff_rank hx hy, not_lt] at h
  rwa [le_iff_rank hy hx]

theorem le_of_lt (h : x < y) : x ≤ y := by
  rw [lt_iff_rank hx hy] at h
  rw [le_iff_rank hx hy]
  exact h.le

end

section NaN

variable {x y : Float} (h : x.isNaN = true ∨ y.isNaN = true)
include h

theorem compare_of_isNaN : x.toModel.unpack.compare y.toModel.unpack = none := by
  have hnan {z : Float} (hz : z.isNaN = true) : z.toModel.unpack = .notANumber := by
    have hz : z.toModel.unpack.isNaN = true := hz
    cases hu : z.toModel.unpack <;> simp [UnpackedFloat.isNaN, hu] at hz ⊢
  rcases h with h | h
  · rw [hnan h, UnpackedFloat.compare]
  · cases hx : x.toModel.unpack <;> simp [hnan h, UnpackedFloat.compare]

/-- NaN is neither less nor greater than anything. -/
theorem not_lt_of_isNaN : ¬ x < y := by
  have hlt : x < y ↔ (x.toModel.unpack.compare y.toModel.unpack == some .lt) = true :=
    decide_eq_true_iff
  rw [hlt, compare_of_isNaN h]
  exact Bool.false_ne_true

theorem not_beq_of_isNaN : ¬ (x == y) = true := by
  have hbeq : (x == y) = true ↔ (x.toModel.unpack.compare y.toModel.unpack == some .eq) = true :=
    Iff.rfl
  rw [hbeq, compare_of_isNaN h]
  exact Bool.false_ne_true

end NaN

theorem le_self (hx : x.isNaN = false) : x ≤ x := by
  rw [le_iff_rank hx hx]

include hx hy hz in
theorem le_trans (h : x ≤ y) (h' : y ≤ z) : x ≤ z := by
  rw [le_iff_rank hx hy] at h
  rw [le_iff_rank hy hz] at h'
  rw [le_iff_rank hx hz]
  exact h.trans h'

end Telemetry.Floats
