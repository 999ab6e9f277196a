import Mathlib
import Telemetry.Decimal.Fixed
import Telemetry.Proofs.Float.Packing
import Telemetry.Text.Segments
/-!
# Decimal places read back

A number is read by its sign, its digits and the digits behind its point. Main statement: a double
that is written with a set number of places reads back as the number with so many places that is
nearest to it, the even one of two.
-/
namespace Telemetry.Decimal

open Float.Model hiding unpack
open UnpackedFloat

/-- A number as it is read. -/
inductive Numeral where
  | notNumber
  | infinite (negative : Bool)
  /-- So many units of `10 ^ (-places)`. -/
  | decimal (negative : Bool) (units places : ℕ)
deriving DecidableEq, Repr

/-- The number that digits stand for. -/
def digits? (cs : List Char) : Option ℕ :=
  if cs ≠ [] ∧ cs.all Char.isDigit then some (Nat.ofDigitChars 10 cs 0) else none

/-- A number behind its sign. -/
def unsigned? (negative : Bool) (cs : List Char) : Option Numeral :=
  if cs = ['i', 'n', 'f'] then some (.infinite negative)
  else
    match Text.pieces '.' cs with
    | [whole] => (digits? whole).map fun n => .decimal negative n 0
    | [whole, part] => do
      let n ← digits? whole
      let k ← digits? part
      some (.decimal negative (10 ^ part.length * n + k) part.length)
    | _ => none

def numeral? (cs : List Char) : Option Numeral :=
  if cs = ['N', 'a', 'N'] then some .notNumber
  else if cs.head? = some '-' then unsigned? true cs.tail
  else unsigned? false cs

section Reading

/-- Zeros in front of digits change nothing. -/
theorem digits?_padded (k n : ℕ) :
    digits? (List.replicate k '0' ++ Nat.toDigits 10 n) = some n := by
  have hz : (List.replicate k '0').all Char.isDigit = true :=
    List.all_eq_true.2 fun c hc => by rw [List.eq_of_mem_replicate hc]; rfl
  have hd : (Nat.toDigits 10 n).all Char.isDigit = true :=
    List.all_eq_true.2 fun c hc => Nat.isDigit_of_mem_toDigits (by decide) (by decide) hc
  have hne : List.replicate k '0' ++ Nat.toDigits 10 n ≠ [] := by
    simp [Nat.toDigits_ne_nil]
  rw [digits?, if_pos ⟨hne, by rw [List.all_append, hz, hd]; rfl⟩, Nat.ofDigitChars_append,
    Nat.ofDigitChars_replicate_zero, mul_zero, Nat.ofDigitChars_toDigits (by decide) (by decide)]

theorem digits?_toDigits (n : ℕ) : digits? (Nat.toDigits 10 n) = some n :=
  digits?_padded 0 n

theorem point_not_mem_toDigits (n : ℕ) : '.' ∉ Nat.toDigits 10 n := by
  intro h
  have hd : '.'.isDigit = true := Nat.isDigit_of_mem_toDigits (by decide) (by decide) h
  exact absurd hd (by decide)

/-- Behind the point stand as many digits as there are places. -/
theorem exists_placed_eq {places : ℕ} (h : 0 < places) (n : ℕ) : ∃ k,
    placed places n = Nat.toDigits 10 (n / 10 ^ places) ++
      '.' :: (List.replicate k '0' ++ Nat.toDigits 10 (n % 10 ^ places)) ∧
    k + (Nat.toDigits 10 (n % 10 ^ places)).length = places := by
  have hl : (Nat.toDigits 10 (n % 10 ^ places)).length ≤ places :=
    (Nat.length_toDigits_le_iff (by decide) h).2 (Nat.mod_lt _ (by positivity))
  refine ⟨places - (Nat.toDigits 10 (n % 10 ^ places)).length, ?_, by omega⟩
  rw [placed, if_neg (by omega)]
  rfl

theorem exists_placed_eq_cons (places n : ℕ) :
    ∃ c cs, placed places n = c :: cs ∧ c.isDigit = true := by
  obtain ⟨c, cs, hc⟩ := List.exists_cons_of_ne_nil
    (Nat.toDigits_ne_nil (n := n / Nat.pow 10 places) (b := 10))
  have hd : c.isDigit = true :=
    Nat.isDigit_of_mem_toDigits (by decide) (by decide) (hc ▸ List.mem_cons_self)
  simp only [placed, hc, List.cons_append]
  exact ⟨c, _, rfl, hd⟩

theorem unsigned?_placed (negative : Bool) (places n : ℕ) :
    unsigned? negative (placed places n) = some (.decimal negative n places) := by
  have hinf : placed places n ≠ ['i', 'n', 'f'] := by
    obtain ⟨c, cs, hc, hd⟩ := exists_placed_eq_cons places n
    rw [hc]
    rintro he
    obtain rfl : c = 'i' := (List.cons.inj he).1
    exact absurd hd (by decide)
  rw [unsigned?, if_neg hinf]
  rcases Nat.eq_zero_or_pos places with rfl | hp
  · have h0 : placed 0 n = Nat.toDigits 10 n := by simp [placed]
    rw [h0, Text.pieces_of_not_mem (point_not_mem_toDigits n)]
    simp only [digits?_toDigits, Option.map_some]
  · obtain ⟨k, hk, hl⟩ := exists_placed_eq hp n
    have hpart : '.' ∉ List.replicate k '0' ++ Nat.toDigits 10 (n % 10 ^ places) := by
      simp [point_not_mem_toDigits]
    rw [hk, Text.pieces_append_cons (point_not_mem_toDigits _), Text.pieces_of_not_mem hpart]
    simp only [digits?_toDigits, digits?_padded, List.length_append, List.length_replicate, hl,
      Option.bind_eq_bind, Option.bind_some, Nat.div_add_mod]

/-- A number is read behind its sign. -/
theorem numeral?_signed (negative : Bool) (places n : ℕ) :
    numeral? (if negative then "-" ++ String.ofList (placed places n)
      else String.ofList (placed places n)).toList = some (.decimal negative n places) := by
  have hread := unsigned?_placed negative places n
  cases negative with
  | true => simpa [numeral?] using hread
  | false =>
    obtain ⟨c, cs, hc, hd⟩ := exists_placed_eq_cons places n
    have hnan : c :: cs ≠ ['N', 'a', 'N'] := by
      rintro he
      obtain rfl : c = 'N' := (List.cons.inj he).1
      exact absurd hd (by decide)
    have hsign : c ≠ '-' := by
      rintro rfl
      exact absurd hd (by decide)
    rw [hc] at hread ⊢
    simpa [numeral?, hnan, hsign] using hread

end Reading

section Nearest

/-- The natural number next to a number, the even one if there are two. -/
def Nearest (q : ℚ) (n : ℕ) : Prop :=
  |q - n| ≤ 1 / 2 ∧ (|q - n| = 1 / 2 → Even n)

theorem nearest_roundDiv (num : ℕ) {den : ℕ} (h : 0 < den) :
    Nearest (num / den) (roundDiv num den) := by
  have hd : (0 : ℚ) < den := by exact_mod_cast h
  have hsplit : (num : ℚ) / den = (num / den : ℕ) + ((num % den : ℕ) : ℚ) / den := by
    have he : (num : ℚ) = den * (num / den : ℕ) + (num % den : ℕ) := by
      exact_mod_cast (Nat.div_add_mod num den).symm
    rw [div_eq_iff hd.ne', add_mul, div_mul_cancel₀ _ hd.ne', mul_comm _ (den : ℚ)]
    exact he
  have hlt : ((num % den : ℕ) : ℚ) / den < 1 :=
    (div_lt_one hd).2 (by exact_mod_cast Nat.mod_lt num h)
  have hnn : 0 ≤ ((num % den : ℕ) : ℚ) / den := by positivity
  have half_lt : ((num % den : ℕ) : ℚ) / den < 1 / 2 ↔ 2 * (num % den) < den := by
    rw [div_lt_div_iff₀ hd two_pos, one_mul, mul_comm]
    exact_mod_cast Iff.rfl
  have half_eq : ((num % den : ℕ) : ℚ) / den = 1 / 2 ↔ 2 * (num % den) = den := by
    rw [div_eq_div_iff hd.ne' two_ne_zero, one_mul, mul_comm]
    exact_mod_cast Iff.rfl
  rw [Nearest, hsplit, roundDiv]
  generalize ((num % den : ℕ) : ℚ) / den = rest at *
  simp only [← half_lt, ← half_eq]
  split
  · -- less than half is left over
    rename_i hl
    have ha : |((num / den : ℕ) : ℚ) + rest - (num / den : ℕ)| < 1 / 2 := by
      rwa [add_sub_cancel_left, abs_of_nonneg hnn]
    exact ⟨ha.le, fun he => absurd he ha.ne⟩
  · split
    · rename_i he
      obtain hm | hm := Nat.mod_two_eq_zero_or_one (num / den)
      · rw [hm, add_zero, add_sub_cancel_left, he]
        exact ⟨by norm_num, fun _ => Nat.even_iff.2 hm⟩
      · rw [hm, Nat.cast_add, Nat.cast_one, add_sub_add_left_eq_sub, he]
        exact ⟨by norm_num, fun _ => (Nat.odd_iff.2 hm).add_odd odd_one⟩
    · rename_i hl he
      have hg : 1 / 2 < rest := lt_of_le_of_ne (not_lt.1 hl) (Ne.symm he)
      have ha : |((num / den : ℕ) : ℚ) + rest - ((num / den + 1 : ℕ) : ℚ)| < 1 / 2 := by
        rw [Nat.cast_add, Nat.cast_one, add_sub_add_left_eq_sub, abs_of_nonpos (by linarith)]
        linarith
      exact ⟨ha.le, fun he => absurd he ha.ne⟩

end Nearest

section Bits

section Unpack

variable (v : BitVec Format.binary64.numBits)

theorem toNat_unpackMantissa : (unpackMantissa v).toNat = v.toNat % 2 ^ 52 := by
  simp [unpackMantissa]

theorem toNat_unpackExponent : (unpackExponent v).toNat = v.toNat / 2 ^ 52 % 2 ^ 11 := by
  simp only [unpackExponent, BitVec.toNat_cast, BitVec.extractLsb_toNat]
  rw [Nat.shiftRight_eq_div_pow]

theorem toNat_unpackSign : (unpackSign v).toNat = v.toNat / 2 ^ 63 % 2 := by
  simp only [unpackSign, BitVec.toNat_cast, BitVec.extractLsb_toNat]
  rw [Nat.shiftRight_eq_div_pow]

theorem unpack_of_infinite (h : (unpackExponent v).toNat = 2047) : unpack .binary64 v =
    if (unpackMantissa v).toNat = 0 then .infinity (Sign.ofBitVec (unpackSign v))
    else .notANumber := by
  have he : unpackExponent v = -1#11 := BitVec.eq_of_toNat_eq h
  have hm : unpackMantissa v = 0#52 ↔ (unpackMantissa v).toNat = 0 := BitVec.toNat_inj.symm
  rw [unpack]
  simp only [← hm]
  exact if_pos he

theorem unpack_of_zero (h : (unpackExponent v).toNat = 0) (hm : (unpackMantissa v).toNat = 0) :
    unpack .binary64 v = .zero (Sign.ofBitVec (unpackSign v)) := by
  have he : unpackExponent v = 0#11 := BitVec.eq_of_toNat_eq h
  have hm : unpackMantissa v = 0#52 := BitVec.eq_of_toNat_eq hm
  have hinf : unpackExponent v ≠ -1#11 := by
    rw [he]
    decide
  rw [unpack]
  exact (if_neg hinf).trans ((if_pos he).trans (dif_pos hm))

theorem unpack_of_subnormal (h : (unpackExponent v).toNat = 0) (hm : 0 < (unpackMantissa v).toNat) :
    unpack .binary64 v =
      .finite (Sign.ofBitVec (unpackSign v)) (unpackMantissa v).toNat (-1074) hm := by
  have he : unpackExponent v = 0#11 := BitVec.eq_of_toNat_eq h
  have hz : unpackMantissa v ≠ 0#52 := by
    intro hz
    rw [hz] at hm
    exact absurd hm (by decide)
  have hinf : unpackExponent v ≠ -1#11 := by
    rw [he]
    decide
  rw [unpack]
  refine (if_neg hinf).trans ((if_pos he).trans ((dif_neg hz).trans ?_))
  rw [finite.injEq, he]
  exact ⟨rfl, rfl, rfl⟩

theorem unpack_of_normal (h : 0 < (unpackExponent v).toNat) (h' : (unpackExponent v).toNat ≠ 2047) :
    unpack .binary64 v = .finite (Sign.ofBitVec (unpackSign v)) (2 ^ 52 + (unpackMantissa v).toNat)
      ((unpackExponent v).toNat - 1075) (by omega) := by
  have hinf : unpackExponent v ≠ -1#11 := fun he => h' (congrArg BitVec.toNat he)
  have hz : unpackExponent v ≠ 0#11 := by
    intro hz
    rw [hz] at h
    exact absurd h (by decide)
  rw [unpack]
  refine (if_neg hinf).trans ((if_neg hz).trans ?_)
  rw [finite.injEq]
  exact ⟨rfl, Floats.toNat_implicit _, rfl⟩

end Unpack

def signOf (negative : Bool) : Sign :=
  if negative then .negative else .positive

theorem sign_unpackSign (v : BitVec Format.binary64.numBits) :
    Sign.ofBitVec (unpackSign v) = signOf (v.toNat / 2 ^ 63 % 2 == 1) := by
  rw [← toNat_unpackSign]
  generalize unpackSign v = s
  obtain rfl | rfl := BitVec.eq_zero_or_eq_one s <;> rfl

/-- What a double is by its bits. -/
theorem unpack_cases (x : Float) :
    let b := Bits.ofFloat x
    let m := (Magnitude.ofBits b).mantissa
    b.exponent = 2047 ∧
        x.toModel.unpack = (if b.fraction = 0 then .infinity (signOf b.negative) else .notANumber) ∨
      b.exponent ≠ 2047 ∧ m = 0 ∧ x.toModel.unpack = .zero (signOf b.negative) ∨
      b.exponent ≠ 2047 ∧ ∃ hp : 0 < m,
        x.toModel.unpack = .finite (signOf b.negative) m ((max b.exponent 1 : ℕ) - 1075) hp := by
  intro b m
  let v : BitVec Format.binary64.numBits := x.toBits.toBitVec
  have hv : x.toModel.unpack = unpack .binary64 v := rfl
  have hf : (unpackMantissa v).toNat = b.fraction := toNat_unpackMantissa v
  have he : (unpackExponent v).toNat = b.exponent := toNat_unpackExponent v
  have hs : Sign.ofBitVec (unpackSign v) = signOf b.negative := sign_unpackSign v
  have hm : m = if b.exponent = 0 then b.fraction else 2 ^ 52 + b.fraction := rfl
  rw [hv, ← hs]
  by_cases hinf : b.exponent = 2047
  · exact .inl ⟨hinf, hf ▸ unpack_of_infinite v (he.trans hinf)⟩
  refine .inr ?_
  by_cases h0 : b.exponent = 0
  · rw [if_pos h0, ← hf] at hm
    by_cases hz : (unpackMantissa v).toNat = 0
    · exact .inl ⟨hinf, hm.trans hz, unpack_of_zero v (he.trans h0) hz⟩
    · refine .inr ⟨hinf, by omega, ?_⟩
      rw [unpack_of_subnormal v (he.trans h0) (by omega), finite.injEq, h0]
      exact ⟨rfl, hm.symm, rfl⟩
  · rw [if_neg h0, ← hf] at hm
    refine .inr ⟨hinf, by omega, ?_⟩
    rw [unpack_of_normal v (by omega) (by omega), finite.injEq, Nat.max_eq_left (by omega), he]
    exact ⟨rfl, hm.symm, rfl⟩

/-- A magnitude as a fraction is its mantissa times a power of two. -/
theorem num_div_unitDen (b : Bits) :
    ((Magnitude.ofBits b).num : ℚ) / (Magnitude.ofBits b).unitDen =
      (Magnitude.ofBits b).mantissa * 2 ^ (((max b.exponent 1 : ℕ) : ℤ) - 1075) := by
  have h2 : (2 : ℚ) ≠ 0 := two_ne_zero
  have hn : ((Magnitude.ofBits b).num : ℚ) =
      4 * (Magnitude.ofBits b).mantissa * 2 ^ (max b.exponent 1 - 1077) := by
    exact_mod_cast rfl
  have hd : ((Magnitude.ofBits b).unitDen : ℚ) = 2 ^ (1077 - max b.exponent 1) := by
    exact_mod_cast rfl
  have hz : ((max b.exponent 1 : ℕ) : ℤ) - 1075 =
      ((max b.exponent 1 - 1077 : ℕ) : ℤ) - ((1077 - max b.exponent 1 : ℕ) : ℤ) + 2 := by
    omega
  rw [hn, hd, hz, zpow_add₀ h2, zpow_sub₀ h2, zpow_natCast, zpow_natCast]
  ring

end Bits

section Shows

/-- What a numeral with so many places has to say of a double. -/
inductive Shows (places : ℕ) : UnpackedFloat → Numeral → Prop
  | notNumber : Shows places .notANumber .notNumber
  | infinite (negative : Bool) : Shows places (.infinity (signOf negative)) (.infinite negative)
  | zero (negative : Bool) :
    Shows places (.zero (signOf negative)) (.decimal negative 0 places)
  | nearest (negative : Bool) {m : ℕ} {e : ℤ} (hp : 0 < m) {units : ℕ}
      (h : Nearest (m * 2 ^ e * 10 ^ places) units) :
    Shows places (.finite (signOf negative) m e hp) (.decimal negative units places)

/-- A double that is written with a set number of places reads back as the nearest such number. -/
theorem fixed_shows (places : ℕ) (x : Float) :
    ∃ n, numeral? (fixed places x).toList = some n ∧ Shows places x.toModel.unpack n := by
  have finite (h : (Bits.ofFloat x).exponent ≠ 2047) : numeral? (fixed places x).toList =
      some (.decimal (Bits.ofFloat x).negative
        (roundDiv ((Magnitude.ofBits (Bits.ofFloat x)).num * 10 ^ places)
          (Magnitude.ofBits (Bits.ofFloat x)).unitDen) places) := by
    rw [fixed, if_neg h]
    exact numeral?_signed _ places _
  rcases unpack_cases x with ⟨he, hu⟩ | ⟨he, hm, hu⟩ | ⟨he, hp, hu⟩
  · rw [fixed, if_pos he, hu]
    by_cases hf : (Bits.ofFloat x).fraction = 0
    · refine ⟨.infinite (Bits.ofFloat x).negative, ?_, ?_⟩
      · rw [if_neg (not_not_intro hf)]
        cases (Bits.ofFloat x).negative <;> rfl
      · rw [if_pos hf]
        exact .infinite _
    · rw [if_pos hf, if_neg hf]
      exact ⟨.notNumber, rfl, .notNumber⟩
  · refine ⟨_, finite he, ?_⟩
    have hz : (Magnitude.ofBits (Bits.ofFloat x)).num = 0 := by
      rw [Magnitude.num, hm, mul_zero, zero_mul]
    rw [hu, hz, zero_mul]
    have h0 (den : ℕ) : roundDiv 0 den = 0 := by
      cases den <;> simp [roundDiv]
    rw [h0]
    exact .zero _
  · refine ⟨_, finite he, ?_⟩
    have hn := nearest_roundDiv ((Magnitude.ofBits (Bits.ofFloat x)).num * 10 ^ places)
      (Magnitude.unitDen_pos (Bits.ofFloat x))
    rw [Nat.cast_mul, mul_div_right_comm, num_div_unitDen, Nat.cast_pow] at hn
    rw [hu]
    exact .nearest _ hp hn

end Shows

end Telemetry.Decimal
