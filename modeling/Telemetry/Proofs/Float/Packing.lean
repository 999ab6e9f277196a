import Mathlib
/-!
# Packed floating-point numbers

A number that fits the format of 64 bits is found again after it was packed, and what is found in 64
bits fits the format.
-/
namespace Telemetry.Floats

open Float.Model hiding pack unpack
open UnpackedFloat

/-- The mantissa has at most 53 bits, and fewer only at the least exponent. -/
def Fits : UnpackedFloat → Prop
  | .finite _ m e _ => m < 2 ^ 53 ∧ -1074 ≤ e ∧ e ≤ 971 ∧ (2 ^ 52 ≤ m ∨ e = -1074)
  | _ => True

theorem unpackSign_packComponents {spec : Format} (s : Sign) (ev : BitVec spec.exponentBits)
    (mv : BitVec spec.mantissaBitsWithoutImplicit) :
    Sign.ofBitVec (unpackSign (packComponents spec s ev mv)) = s := by
  have hs : unpackSign (packComponents spec s ev mv) = s.toBitVec := by
    apply BitVec.eq_of_getLsbD_eq
    intro i hi
    obtain rfl : i = 0 := by omega
    have hlt : ¬ spec.mantissaBitsWithoutImplicit + spec.exponentBits <
        spec.mantissaBitsWithoutImplicit := by omega
    simp [unpackSign, packComponents, BitVec.getLsbD_append, BitVec.getElem_append, hlt]
  rw [hs]
  cases s <;> rfl

/-- The bit before the mantissa is implied. -/
theorem toNat_implicit (mv : BitVec 52) : (1#1 ++ mv).toNat = 2 ^ 52 + mv.toNat := by
  have hlt : mv.toNat < 2 ^ 52 := mv.isLt
  rw [BitVec.toNat_append, ← Nat.shiftLeft_add_eq_or_of_lt hlt]
  rfl

theorem fits_unpack (b : BitVec Format.binary64.numBits) : Fits (unpack .binary64 b) := by
  have hm : (unpackMantissa b).toNat < 2 ^ 52 := (unpackMantissa b).isLt
  have he : (unpackExponent b).toNat < 2 ^ 11 := (unpackExponent b).isLt
  have hbias : Format.binary64.exponentBias = 1023 := rfl
  rw [unpack]
  split
  · split <;> trivial
  · rename_i hinf
    have hinf : (unpackExponent b).toNat ≠ 2047 := fun h => hinf (BitVec.eq_of_toNat_eq h)
    split
    · rename_i hz
      have hz : (unpackExponent b).toNat = 0 := congrArg BitVec.toNat hz
      split
      · trivial
      · simp only [Fits, hbias, hz]
        omega
    · rename_i hz
      have hz : (unpackExponent b).toNat ≠ 0 := fun h => hz (BitVec.eq_of_toNat_eq h)
      simp only [Fits, toNat_implicit, hbias]
      omega

theorem unpack_normal (s : Sign) {ev : BitVec 11} (mv : BitVec 52) (h : 0 < ev.toNat)
    (h' : ev.toNat < 2047) {m : ℕ} {e : ℤ} (hp : 0 < m) (hm : m = 2 ^ 52 + mv.toNat)
    (he : e = ev.toNat - 1075) :
    unpack .binary64 (packComponents .binary64 s ev mv) = .finite s m e hp := by
  have hinf : ev ≠ -1#11 := by
    intro hev
    rw [hev] at h'
    exact absurd h' (by decide)
  have hz : ev ≠ 0#11 := by
    intro hev
    rw [hev] at h
    exact absurd h (by decide)
  have hbias : Format.binary64.exponentBias = 1023 := rfl
  rw [unpack]
  simp only [unpackMantissa_packComponents, unpackExponent_packComponents,
    unpackSign_packComponents]
  rw [if_neg hinf, if_neg hz]
  simp only [toNat_implicit, hbias, finite.injEq, true_and]
  omega

theorem unpack_subnormal (s : Sign) {mv : BitVec 52} (h : mv ≠ 0#52) (hp : 0 < mv.toNat) :
    unpack .binary64 (packComponents .binary64 s 0#11 mv) = .finite s mv.toNat (-1074) hp := by
  have hinf : 0#11 ≠ -1#11 := by decide
  rw [unpack]
  simp only [unpackMantissa_packComponents, unpackExponent_packComponents,
    unpackSign_packComponents]
  rw [if_neg hinf, if_pos trivial, dif_neg h]
  rfl

theorem unpack_pack_finite (s : Sign) {m : ℕ} {e : ℤ} (hp : 0 < m) (h : Fits (.finite s m e hp)) :
    unpack .binary64 (pack .binary64 (.finite s m e hp)) = .finite s m e hp := by
  obtain ⟨hlt, hmin, hmax, hm⟩ := h
  have hbias : Format.binary64.exponentBias = 1023 := rfl
  have hbits : Format.binary64.mantissaBits = 53 := rfl
  have hne : m ≠ 0 := Nat.ne_of_gt hp
  simp only [pack, hbias, hbits]
  rw [if_neg (by omega)]
  by_cases hn : 2 ^ 52 ≤ m
  · have hl : m.log2 = 52 := (Nat.log2_eq_iff hne).2 ⟨hn, hlt⟩
    rw [if_pos (by omega)]
    apply unpack_normal
    · rw [BitVec.toNat_ofNat]
      omega
    · rw [BitVec.toNat_ofNat]
      omega
    · rw [BitVec.toNat_ofNat]
      omega
    · rw [BitVec.toNat_ofNat]
      omega
  · have hl : m.log2 < 52 := (Nat.log2_lt hne).2 (by omega)
    obtain rfl : e = -1074 := hm.resolve_left hn
    have hmv : (BitVec.ofNat 52 m).toNat = m := by
      rw [BitVec.toNat_ofNat]
      omega
    have hz : BitVec.ofNat 52 m ≠ 0#52 := by
      intro hz
      rw [hz] at hmv
      exact hne hmv.symm
    rw [if_neg (by omega), unpack_subnormal s hz (by omega)]
    simp only [hmv]

/-- Packing loses nothing of what fits. -/
theorem unpack_pack {u : UnpackedFloat} (h : Fits u) :
    unpack .binary64 (pack .binary64 u) = u := by
  cases u with
  | notANumber => rfl
  | infinity s => cases s <;> rfl
  | zero s => cases s <;> rfl
  | finite s m e hp => exact unpack_pack_finite s hp h

end Telemetry.Floats
