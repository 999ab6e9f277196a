import Mathlib.Data.List.Pairwise
import Telemetry.Regex.CharClass
/-!
# Case variants

Main statement: the case variants of a character are just those that fold to the same character.
This rests on three facts of the table of folds: its runs are in order, what they hold and fold to
are characters, and nothing that is folded to is folded itself.
-/
namespace Telemetry

namespace Unicode

namespace FoldRow

/-- Where the run folds a code point that it holds. -/
def image (r : FoldRow) (n : Nat) : Nat :=
  r.target + (n - r.first)

theorem holds_iff {r : FoldRow} {n : Nat} :
    r.holds n = true ↔ r.first ≤ n ∧ n ≤ r.last ∧ (n - r.first) % r.step = 0 := by
  simp [holds, and_assoc]

/-- The code points that a run folds to lie away from another run, or between those it holds. -/
def apart (r s : FoldRow) : Bool :=
  Nat.blt s.last r.target || Nat.blt (r.image r.last) s.first ||
    ((r.first == r.last || r.step == 2) && s.step == 2 && (r.target + s.first) % 2 == 1)

end FoldRow

/-- Each run ends before the next begins. -/
theorem foldRows_ordered :
    foldRows.Pairwise fun r s => r.first ≤ r.last ∧ r.last < s.first := by
  have hchain : foldRows.IsChain fun r s => r.first ≤ r.last ∧ r.last < s.first := by
    decide +kernel
  have : IsTrans FoldRow fun r s => r.first ≤ r.last ∧ r.last < s.first :=
    ⟨fun _ _ _ hr hs => ⟨hr.1, by omega⟩⟩
  exact hchain.pairwise

theorem foldRows_bounded : ∀ r ∈ foldRows,
    (r.last < 0xD800 ∨ 0xDFFF < r.first ∧ r.last < 0x110000) ∧
      (r.image r.last < 0xD800 ∨ 0xDFFF < r.target ∧ r.image r.last < 0x110000) := by
  decide +kernel

variable {r s : FoldRow} {n : Nat}

theorem foldRows_apart (hr : r ∈ foldRows) (hs : s ∈ foldRows) : r.apart s = true := by
  have hall : (foldRows.all fun r => foldRows.all fun s => r.apart s) = true := by
    decide +kernel
  exact List.all_eq_true.1 (List.all_eq_true.1 hall r hr) s hs

/-- No code point is in two runs. -/
theorem eq_of_holds (hr : r ∈ foldRows) (hs : s ∈ foldRows) (hn : r.holds n = true)
    (hn' : s.holds n = true) : r = s := by
  rw [FoldRow.holds_iff] at hn hn'
  obtain ⟨i, hi, rfl⟩ := List.getElem_of_mem hr
  obtain ⟨j, hj, rfl⟩ := List.getElem_of_mem hs
  have ordered := List.pairwise_iff_getElem.1 foldRows_ordered
  rcases Nat.lt_trichotomy i j with hij | rfl | hij
  · have hlt := (ordered i j hi hj hij).2
    omega
  · rfl
  · have hlt := (ordered j i hj hi hij).2
    omega

theorem not_holds_image (hr : r ∈ foldRows) (hs : s ∈ foldRows) (hn : r.holds n = true) :
    ¬ s.holds (r.image n) = true := by
  intro h
  rw [FoldRow.holds_iff] at hn h
  have ha := foldRows_apart hr hs
  simp only [FoldRow.apart, Bool.or_eq_true, Bool.and_eq_true, Nat.blt_eq, beq_iff_eq] at ha
  simp only [FoldRow.image] at h ha
  rcases ha with (ha | ha) | ⟨⟨hstep, hs2⟩, hodd⟩
  · omega
  · omega
  · rw [hs2] at h
    rcases hstep with hone | hr2
    · omega
    · rw [hr2] at hn
      omega

theorem toNat_ofNat (h : n.isValidChar) : (Char.ofNat n).toNat = n := by
  rw [Char.ofNat, dif_pos h]
  rfl

theorem isValidChar_of_holds (hr : r ∈ foldRows) (hn : r.holds n = true) : n.isValidChar := by
  rw [FoldRow.holds_iff] at hn
  obtain ⟨hb, -⟩ := foldRows_bounded r hr
  unfold Nat.isValidChar
  omega

theorem isValidChar_image (hr : r ∈ foldRows) (hn : r.holds n = true) :
    (r.image n).isValidChar := by
  rw [FoldRow.holds_iff] at hn
  obtain ⟨-, hb⟩ := foldRows_bounded r hr
  unfold FoldRow.image at hb ⊢
  unfold Nat.isValidChar
  omega

theorem fold_of_holds {c : Char} (hr : r ∈ foldRows) (hn : r.holds c.toNat = true) :
    fold c = Char.ofNat (r.image c.toNat) := by
  have hf : foldRows.find? (·.holds c.toNat) = some r := by
    have hx : ∃ s, s ∈ foldRows ∧ s.holds c.toNat = true := ⟨r, hr, hn⟩
    obtain ⟨s, hs⟩ := Option.isSome_iff_exists.1 (List.find?_isSome.2 hx)
    have hsn := List.find?_some hs
    rw [hs, eq_of_holds (List.mem_of_find?_eq_some hs) hr hsn hn]
  rw [fold, hf]
  rfl

theorem fold_of_not_holds {c : Char} (h : ∀ r ∈ foldRows, ¬ r.holds c.toNat = true) :
    fold c = c := by
  rw [fold, List.find?_eq_none.2 h]

/-- The run that holds a character, if it does not fold to itself. -/
theorem holds_or_fold_eq (c : Char) :
    (∃ r ∈ foldRows, r.holds c.toNat = true ∧ fold c = Char.ofNat (r.image c.toNat)) ∨
      (∀ r ∈ foldRows, ¬ r.holds c.toNat = true) ∧ fold c = c := by
  by_cases h : ∃ r ∈ foldRows, r.holds c.toNat = true
  · obtain ⟨r, hr, hn⟩ := h
    exact .inl ⟨r, hr, hn, fold_of_holds hr hn⟩
  · have hn : ∀ r ∈ foldRows, ¬ r.holds c.toNat = true := fun r hr hn => h ⟨r, hr, hn⟩
    exact .inr ⟨hn, fold_of_not_holds hn⟩

theorem fold_fold (c : Char) : fold (fold c) = fold c := by
  rcases holds_or_fold_eq c with ⟨r, hr, hn, hf⟩ | ⟨-, hf⟩
  · have hv := isValidChar_image hr hn
    apply fold_of_not_holds
    intro s hs
    rw [hf, toNat_ofNat hv]
    exact not_holds_image hr hs hn
  · rw [hf, hf]

theorem source?_eq_some_iff {m : Nat} :
    r.source? n = some m ↔ r.holds m = true ∧ r.image m = n := by
  simp only [FoldRow.source?, FoldRow.image, Bool.and_eq_true, decide_eq_true_eq]
  constructor
  · intro h
    split at h
    · rename_i hn
      obtain rfl := Option.some.inj h
      exact ⟨hn.2, by omega⟩
    · cases h
  · rintro ⟨hn, rfl⟩
    have hf := (FoldRow.holds_iff.1 hn).1
    have hm : r.first + (r.target + (m - r.first) - r.target) = m := by omega
    rw [hm, if_pos ⟨Nat.le_add_right _ _, hn⟩]

/-- The case variants of a character are those that fold to the same one. -/
theorem mem_caseVariants {c d : Char} : d ∈ caseVariants c ↔ fold d = fold c := by
  rw [caseVariants, List.mem_cons, List.mem_filterMap]
  constructor
  · rintro (rfl | ⟨r, hr, he⟩)
    · exact fold_fold c
    · obtain ⟨m, hm, rfl⟩ := Option.map_eq_some_iff.1 he
      obtain ⟨hn, hi⟩ := source?_eq_some_iff.1 hm
      have hv := toNat_ofNat (isValidChar_of_holds hr hn)
      rw [fold_of_holds hr (hv.symm ▸ hn), hv, hi, Char.ofNat_toNat]
  · intro h
    rcases holds_or_fold_eq d with ⟨r, hr, hn, hf⟩ | ⟨-, hf⟩
    · have hi : (fold c).toNat = r.image d.toNat := by
        rw [← h, hf, toNat_ofNat (isValidChar_image hr hn)]
      refine .inr ⟨r, hr, ?_⟩
      rw [source?_eq_some_iff.2 ⟨hn, hi.symm⟩, Option.map_some, Char.ofNat_toNat]
    · exact .inl (hf ▸ h)

/-- The run of the letters `A` to `Z`. -/
def capitals : FoldRow :=
  ⟨0x41, 0x5A, 1, 0x61⟩

theorem capitals_mem : capitals ∈ foldRows :=
  List.mem_of_getElem? (i := 0) rfl

theorem capitals_holds_iff : capitals.holds n = true ↔ 0x41 ≤ n ∧ n ≤ 0x5A := by
  rw [FoldRow.holds_iff]
  have hmod := Nat.mod_one (n - capitals.first)
  exact ⟨fun h => ⟨h.1, h.2.1⟩, fun h => ⟨h.1, h.2, hmod⟩⟩

/-- No other run begins among the first 128 characters. -/
theorem capitals_holds_of_ascii (hr : r ∈ foldRows) (hn : r.holds n = true) (h : n < 128) :
    capitals.holds n = true := by
  have hall : ∀ r ∈ foldRows, r.first < 128 → r.first = 0x41 ∧ r.last = 0x5A := by
    decide +kernel
  rw [FoldRow.holds_iff] at hn
  obtain ⟨hfirst, hlast⟩ := hall r hr (Nat.lt_of_le_of_lt hn.1 h)
  exact capitals_holds_iff.2 ⟨hfirst ▸ hn.1, hlast ▸ hn.2.1⟩

/-- Among the first 128 characters case is that of the letters `A` to `Z`. -/
theorem fold_of_ascii {c : Char} (h : c.toNat < 128) : fold c = c.toLower := by
  have hall : ∀ n < 128, (Char.ofNat n).toLower =
      if capitals.holds n then Char.ofNat (capitals.image n) else Char.ofNat n := by
    decide +kernel
  have hlower := hall c.toNat h
  rw [Char.ofNat_toNat] at hlower
  rcases holds_or_fold_eq c with ⟨r, hr, hn, -⟩ | ⟨hn, hf⟩
  · have hc := capitals_holds_of_ascii hr hn h
    rw [fold_of_holds capitals_mem hc, hlower, if_pos hc]
  · rw [hf, hlower, if_neg (hn _ capitals_mem)]

theorem fold_toLower (c : Char) : fold c.toLower = fold c := by
  by_cases h : c.toNat < 128
  · rw [← fold_of_ascii h, fold_fold]
  · have hc : c.toLower = c := by
      refine dif_neg ?_
      rintro ⟨-, hz⟩
      exact h (Nat.lt_of_le_of_lt hz (by decide))
    rw [hc]

/-- A line feed is no case variant of anything else. -/
theorem fold_eq_lineFeed_iff {c : Char} : fold c = '\n' ↔ c = '\n' := by
  have hv : caseVariants '\n' = ['\n'] := by
    decide +kernel
  have hf : fold '\n' = '\n' := by
    decide +kernel
  rw [← List.mem_singleton (a := c), ← hv, mem_caseVariants, hf]

end Unicode

open Regex

/-- A character folded in a class stands for all that are equal to it but for their case. -/
theorem Regex.CharClass.mem_foldCase_char (c d : Char) :
    (CharClass.foldCase (.char d)).mem c = Unicode.eqFold d c := by
  rw [Bool.eq_iff_iff, mem, List.any_eq_true, Unicode.eqFold, beq_iff_eq,
    ← Unicode.mem_caseVariants]
  simp

end Telemetry
