import Mathlib.Algebra.Order.Field.Rat
import Mathlib.Algebra.Order.Group.Abs
import Mathlib.Data.List.Forall2
import Mathlib.Tactic.NormNum
import Mathlib.Tactic.Ring
import Telemetry.Proofs.Float.Packing
/-!
# Floating-point numbers that are integers

As long as results stay below 2 ^ 53, integers are added and subtracted without any rounding.
-/
namespace Telemetry.Floats

open Float.Model hiding add neg pack sub unpack
open UnpackedFloat

/-- The number that an unpacked float stands for. -/
def value : UnpackedFloat → Option ℚ
  | .zero _ => some 0
  | .finite s m e _ => some (s.apply m * 2 ^ e)
  | _ => none

/-- The float stands for just this integer. -/
def IsInt (x : Float) (n : ℤ) : Prop :=
  value x.toModel.unpack = some (n : ℚ)

theorem shiftRight_exact (m k : ℕ) :
    (ExtendedMantissa.mk (m * 2 ^ k) false false) >>> k = ⟨m, false, false⟩ := by
  change k.repeat ExtendedMantissa.shiftRightOne _ = _
  induction k generalizing m with
  | zero => rw [pow_zero, mul_one, Nat.repeat]
  | succ k ih =>
    have hm : m * 2 ^ (k + 1) = 2 * m * 2 ^ k := by ring
    rw [hm, Nat.repeat, ih]
    simp [ExtendedMantissa.shiftRightOne]

theorem log2_mul_two_pow {m : ℕ} (h : m ≠ 0) (k : ℕ) : (m * 2 ^ k).log2 = m.log2 + k := by
  induction k with
  | zero => rw [pow_zero, mul_one, add_zero]
  | succ k ih =>
    have hk : m * 2 ^ k ≠ 0 := Nat.mul_ne_zero h (Nat.two_pow_pos k).ne'
    have hm : m * 2 ^ (k + 1) = 2 * (m * 2 ^ k) := by ring
    rw [hm, Nat.log2_two_mul hk, ih, add_assoc]

theorem mul_two_pow_eq {M m : ℕ} {E e : ℤ} (h : (M : ℚ) * 2 ^ E = m * 2 ^ e) :
    M * 2 ^ (E - e).toNat = m * 2 ^ (e - E).toNat := by
  have two_ne : (2 : ℚ) ≠ 0 := two_ne_zero
  have hE : (2 : ℚ) ^ E = 2 ^ (E - e).toNat * 2 ^ min E e := by
    rw [← zpow_natCast, ← zpow_add₀ two_ne]
    congr 1
    omega
  have he : (2 : ℚ) ^ e = 2 ^ (e - E).toNat * 2 ^ min E e := by
    rw [← zpow_natCast, ← zpow_add₀ two_ne]
    congr 1
    omega
  rw [hE, he, ← mul_assoc, ← mul_assoc] at h
  have hc := mul_right_cancel₀ (zpow_ne_zero (min E e) two_ne) h
  exact_mod_cast hc

theorem targetExponent_eq (t : ℤ) : Format.binary64.targetExponent t = max (t - 53) (-1074) := rfl

section Round

variable (s : Sign) {m : ℕ} {e : ℤ} (hp : 0 < m) (hm : 2 ^ 52 ≤ m) (hm' : m < 2 ^ 53)
  (he : -1074 ≤ e)
include hm hm' he

theorem shiftToTargetExponent_exact (k : ℕ) :
    shiftToTargetExponent .binary64 (m * 2 ^ k) (e - k) .exact = (⟨m, false, false⟩, e) := by
  have hne : m ≠ 0 := by omega
  have hl : m.log2 = 52 := (Nat.log2_eq_iff hne).2 ⟨hm, hm'⟩
  have ht : Format.binary64.targetExponent (totalExponent (m * 2 ^ k) (e - k)) = e := by
    rw [targetExponent_eq, totalExponent, log2_mul_two_pow hne, hl]
    omega
  have hk : (e - (e - k)).toNat = k := by omega
  rw [shiftToTargetExponent, ht, shiftToExponent, hk]
  simp only [ExtendedMantissa.ofMantissaAndAccuracy, shiftRight_exact]
  rw [sub_add_cancel]

theorem roundWithAccuracy_exact (k : ℕ) :
    roundWithAccuracy .binary64 s (m * 2 ^ k) (e - k) .exact = .finite s m e hp := by
  have h₀ := shiftToTargetExponent_exact hm hm' he 0
  rw [pow_zero, mul_one, Nat.cast_zero, sub_zero] at h₀
  rw [roundWithAccuracy, shiftToTargetExponent_exact hm hm' he k]
  have hr : ExtendedMantissa.roundedMantissa ⟨m, false, false⟩ = m := rfl
  simp only [hr, h₀]
  rw [dif_neg hp.ne']

/-- A number that has a mantissa of 53 bits is not changed by rounding. -/
theorem round_exact {M : ℕ} {E : ℤ} (h : (M : ℚ) * 2 ^ E = m * 2 ^ e) :
    round .binary64 s M E = .finite s m e hp := by
  have hj := mul_two_pow_eq h
  have hpos : 0 < m * 2 ^ (e - E).toNat := Nat.mul_pos hp (Nat.two_pow_pos _)
  have hM : M ≠ 0 := by
    rintro rfl
    rw [zero_mul] at hj
    omega
  have hne : m ≠ 0 := by omega
  have hl : m.log2 = 52 := (Nat.log2_eq_iff hne).2 ⟨hm, hm'⟩
  have hlog := congrArg Nat.log2 hj
  rw [log2_mul_two_pow hM, log2_mul_two_pow hne, hl] at hlog
  have ht : Format.binary64.targetExponent (totalExponent M E) = e := by
    rw [targetExponent_eq, totalExponent]
    omega
  have hd : decreaseExponent M E e = (m * 2 ^ (e - E).toNat, e - (e - E).toNat) := by
    rw [decreaseExponent, Nat.shiftLeft_eq, hj]
    congr 1
    omega
  rw [UnpackedFloat.round, ht, hd]
  exact roundWithAccuracy_exact s hp hm hm' he _

end Round

/-- Rounding keeps positive integers of at most 53 bits. -/
theorem round_int (s : Sign) {M N : ℕ} {E : ℤ} (hN : 0 < N) (hN' : N < 2 ^ 53)
    (h : (M : ℚ) * 2 ^ E = N) :
    ∃ m e, ∃ hp : 0 < m, round .binary64 s M E = .finite s m e hp ∧ Fits (.finite s m e hp) ∧
      (m : ℚ) * 2 ^ e = N := by
  have hne : N ≠ 0 := hN.ne'
  have hl : N.log2 < 53 := (Nat.log2_lt hne).2 hN'
  obtain ⟨d, hd⟩ : ∃ d, N.log2 + d = 52 := ⟨52 - N.log2, by omega⟩
  have hlog := log2_mul_two_pow hne d
  rw [hd] at hlog
  have hp : 0 < N * 2 ^ d := Nat.mul_pos hN (Nat.two_pow_pos d)
  obtain ⟨hm, hm'⟩ := (Nat.log2_eq_iff hp.ne').1 hlog
  have hv : ((N * 2 ^ d : ℕ) : ℚ) * 2 ^ (-(d : ℤ)) = N := by
    rw [Nat.cast_mul, Nat.cast_pow, Nat.cast_ofNat, zpow_neg, zpow_natCast]
    exact mul_inv_cancel_right₀ (pow_ne_zero d two_ne_zero) _
  refine ⟨N * 2 ^ d, -d, hp, ?_, ?_, hv⟩
  · exact round_exact s hp hm hm' (by omega) (h.trans hv.symm)
  · exact ⟨hm', by omega, by omega, .inl hm⟩

/-- The float is this integer and is not changed by packing it. -/
def Exact (u : UnpackedFloat) (n : ℤ) : Prop :=
  value u = some (n : ℚ) ∧ Fits u

theorem round_exact_int (s : Sign) {M N : ℕ} {E : ℤ} (hN : 0 < N) (hN' : N < 2 ^ 53)
    (h : (M : ℚ) * 2 ^ E = N) : Exact (round .binary64 s M E) (s.apply N) := by
  obtain ⟨m, e, hp, hr, hf, hv⟩ := round_int s hN hN' h
  rw [hr]
  refine ⟨?_, hf⟩
  cases s with
  | negative => simp [value, Sign.apply, hv]
  | positive => simp [value, Sign.apply, hv]

theorem normalize_exact {K E n : ℤ} (hn : |n| < 2 ^ 53) (h : (K : ℚ) * 2 ^ E = n) :
    Exact (normalize .binary64 K E .positive) n := by
  have hE : (0 : ℚ) < 2 ^ E := zpow_pos two_pos E
  rw [abs_lt] at hn
  rw [UnpackedFloat.normalize]
  split
  · rename_i hc
    have hK : K < 0 := Int.compare_eq_lt.1 hc
    have hneg : (n : ℚ) < 0 := h ▸ mul_neg_of_neg_of_pos (Int.cast_lt_zero.2 hK) hE
    have hn0 : n < 0 := Int.cast_lt_zero.1 hneg
    have hv : ((-K).toNat : ℚ) * 2 ^ E = (-n).toNat := by
      have hKc : ((-K).toNat : ℚ) = ((-K : ℤ) : ℚ) := by exact_mod_cast Int.toNat_of_nonneg (by omega)
      have hnc : ((-n).toNat : ℚ) = ((-n : ℤ) : ℚ) := by exact_mod_cast Int.toNat_of_nonneg (by omega)
      rw [hKc, hnc, Int.cast_neg, Int.cast_neg, neg_mul, h]
    have hx := round_exact_int .negative (by omega) (by omega) hv
    rwa [Sign.apply, Int.toNat_of_nonneg (by omega), neg_neg] at hx
  · rename_i hc
    have hK : K = 0 := Int.compare_eq_eq.1 hc
    rw [hK, Int.cast_zero, zero_mul] at h
    exact ⟨congrArg some h, trivial⟩
  · rename_i hc
    have hK : 0 < K := Int.compare_eq_gt.1 hc
    have hpos : 0 < (n : ℚ) := h ▸ mul_pos (Int.cast_pos.2 hK) hE
    have hn0 : 0 < n := Int.cast_pos.1 hpos
    have hv : (K.toNat : ℚ) * 2 ^ E = n.toNat := by
      have hKc : (K.toNat : ℚ) = (K : ℚ) := by exact_mod_cast Int.toNat_of_nonneg (by omega)
      have hnc : (n.toNat : ℚ) = (n : ℚ) := by exact_mod_cast Int.toNat_of_nonneg (by omega)
      rw [hKc, hnc, h]
    have hx := round_exact_int .positive (by omega) (by omega) hv
    rwa [Sign.apply, Int.toNat_of_nonneg (by omega)] at hx

theorem shiftLeft_exact (s : Sign) (m : ℕ) {e t : ℤ} (h : t ≤ e) :
    ((s.apply (m <<< (e - t).toNat : ℕ) : ℤ) : ℚ) * 2 ^ t = (s.apply m : ℤ) * 2 ^ e := by
  have he : (2 : ℚ) ^ e = 2 ^ (e - t).toNat * 2 ^ t := by
    rw [← zpow_natCast, ← zpow_add₀ two_ne_zero]
    congr 1
    omega
  rw [Nat.shiftLeft_eq, he]
  cases s with
  | negative => simp [Sign.apply, mul_assoc]
  | positive => simp [Sign.apply, mul_assoc]

section Arithmetic

variable {u v : UnpackedFloat} {a b : ℤ}

theorem add_exact (hu : Exact u a) (hv : Exact v b) (h : |a + b| < 2 ^ 53) :
    Exact (add .binary64 u v) (a + b) := by
  obtain ⟨hu, hfu⟩ := hu
  obtain ⟨hv, hfv⟩ := hv
  cases u with
  | notANumber => cases hu
  | infinity s => cases hu
  | zero s =>
    have ha : a = 0 := by exact_mod_cast (Option.some.inj hu).symm
    cases v with
    | notANumber => cases hv
    | infinity t => cases hv
    | zero t =>
      have hb : b = 0 := by exact_mod_cast (Option.some.inj hv).symm
      rw [ha, hb]
      cases s <;> cases t <;> exact ⟨rfl, trivial⟩
    | finite t n f hp =>
      rw [ha, zero_add]
      exact ⟨hv, hfv⟩
  | finite s m e hp =>
    cases v with
    | notANumber => cases hv
    | infinity t => cases hv
    | zero t =>
      have hb : b = 0 := by exact_mod_cast (Option.some.inj hv).symm
      rw [hb, add_zero]
      exact ⟨hu, hfu⟩
    | finite t n f hq =>
      have hu := Option.some.inj hu
      have hv := Option.some.inj hv
      apply normalize_exact h
      rw [Int.cast_add, add_mul, shiftLeft_exact s m (min_le_left e f),
        shiftLeft_exact t n (min_le_right e f), Int.cast_add, ← hu, ← hv]

theorem neg_exact (hv : Exact v b) : Exact (neg v) (-b) := by
  obtain ⟨hv, hfv⟩ := hv
  cases v with
  | notANumber => cases hv
  | infinity t => cases hv
  | zero t =>
    have hb : b = 0 := by exact_mod_cast (Option.some.inj hv).symm
    rw [hb]
    exact ⟨rfl, trivial⟩
  | finite t n f hq =>
    have hv := Option.some.inj hv
    refine ⟨congrArg some ?_, hfv⟩
    rw [Int.cast_neg, ← hv, ← neg_mul, ← Int.cast_neg]
    cases t with
    | negative => rw [Sign.apply, neg_neg]; rfl
    | positive => rfl

theorem sub_eq_add_neg (u v : UnpackedFloat) :
    sub .binary64 u v = add .binary64 u (neg v) := by
  cases u with
  | notANumber => cases v <;> rfl
  | infinity s => cases v <;> rfl
  | zero s => cases v <;> rfl
  | finite s m e hp =>
    cases v with
    | notANumber => rfl
    | infinity t => rfl
    | zero t => rfl
    | finite t n f hq =>
      cases t with
      | negative =>
        simp only [sub, add, neg]
        congr 1
        exact sub_neg_eq_add _ _
      | positive => rfl

theorem sub_exact (hu : Exact u a) (hv : Exact v b) (h : |a - b| < 2 ^ 53) :
    Exact (sub .binary64 u v) (a - b) := by
  rw [sub_eq_add_neg, Int.sub_eq_add_neg]
  rw [Int.sub_eq_add_neg] at h
  exact add_exact hu (neg_exact hv) h

end Arithmetic

namespace IsInt

variable {x y : Float} {a b : ℤ}

theorem exact (h : IsInt x a) : Exact x.toModel.unpack a :=
  ⟨h, fits_unpack _⟩

theorem of_pack {u : UnpackedFloat} (h : Exact u a) :
    IsInt (.ofModel (.pack u)) a := by
  have hu : (Float.Model.pack u).unpack = u := unpack_pack h.2
  rw [IsInt, hu]
  exact h.1

theorem zero : IsInt 0 0 := rfl

theorem add (hx : IsInt x a) (hy : IsInt y b) (h : |a + b| < 2 ^ 53) : IsInt (x + y) (a + b) :=
  of_pack (add_exact hx.exact hy.exact h)

theorem sub (hx : IsInt x a) (hy : IsInt y b) (h : |a - b| < 2 ^ 53) : IsInt (x - y) (a - b) :=
  of_pack (sub_exact hx.exact hy.exact h)

theorem nonneg_iff {n : ℤ} (h : IsInt x n) : 0 ≤ x ↔ 0 ≤ n := by
  have hle : 0 ≤ x ↔
      ((UnpackedFloat.zero .positive).compare x.toModel.unpack).any (·.isLE) = true :=
    decide_eq_true_iff
  rw [hle]
  rw [IsInt] at h
  cases hu : x.toModel.unpack with
  | notANumber => simp [hu, value] at h
  | infinity s => simp [hu, value] at h
  | zero s =>
    rw [hu] at h
    have hn : n = 0 := by exact_mod_cast (Option.some.inj h).symm
    subst hn
    exact iff_of_true rfl le_rfl
  | finite s m e hp =>
    rw [hu] at h
    have hv : ((s.apply m : ℤ) : ℚ) * 2 ^ e = n := Option.some.inj h
    have he : (0 : ℚ) < 2 ^ e := zpow_pos two_pos e
    have hm : (0 : ℚ) < m := Nat.cast_pos.2 hp
    cases s with
    | negative =>
      refine iff_of_false (by simp [UnpackedFloat.compare]) ?_
      have hn : (n : ℚ) < 0 := by
        rw [← hv, Sign.apply, Int.cast_neg, neg_mul]
        exact neg_neg_of_pos (mul_pos hm he)
      exact not_le.2 (Int.cast_lt_zero.1 hn)
    | positive =>
      refine iff_of_true (by simp [UnpackedFloat.compare]) ?_
      have hn : (0 : ℚ) < n := hv ▸ mul_pos hm he
      exact (Int.cast_pos.1 hn).le
end IsInt

/-- The integer below the number that the float stands for. -/
def toInt (x : Float) : ℤ :=
  ((value x.toModel.unpack).getD 0).floor

theorem IsInt.toInt_eq {x : Float} {n : ℤ} (h : IsInt x n) : toInt x = n := by
  rw [toInt, h]
  exact Rat.floor_intCast n

/-- The sum of the integers that some floats stand for. -/
def intSum (xs : List Float) : ℤ :=
  (xs.map toInt).sum

theorem intSum_append (xs ys : List Float) : intSum (xs ++ ys) = intSum xs + intSum ys := by
  rw [intSum, List.map_append, List.sum_append]
  rfl

theorem intSum_of_forall₂ {xs : List Float} {ns : List ℤ} (h : List.Forall₂ IsInt xs ns) :
    intSum xs = ns.sum := by
  induction h with
  | nil => rfl
  | cons hx _ ih =>
    rw [List.sum_cons, ← ih, ← hx.toInt_eq]
    rfl

/-- No sum of some of the integers is larger than the sum of all their magnitudes. -/
theorem abs_intSum_le {xs ys : List Float} (h : xs.Sublist ys) :
    |intSum xs| ≤ (ys.map fun y => |toInt y|).sum := by
  induction h with
  | slnil => exact le_of_eq abs_zero
  | cons y _ ih =>
    rw [List.map_cons, List.sum_cons]
    exact ih.trans (Int.le_add_of_nonneg_left (abs_nonneg (toInt y)))
  | @cons_cons xs ys y _ ih =>
    have hy : intSum (y :: xs) = toInt y + intSum xs := rfl
    rw [hy, List.map_cons, List.sum_cons]
    exact (abs_add_le _ _).trans (Int.add_le_add_left ih _)

end Telemetry.Floats
