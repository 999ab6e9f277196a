import Mathlib.Data.List.Forall2
import Telemetry.Filter.Glob
/-!
# What wildcard patterns stand for

Main statement: a wildcard pattern accepts just the texts that are the pattern with every sign of it
replaced by what the sign stands for.
-/
namespace Telemetry.Filter

/-- A character of a written pattern may be replaced by these characters. -/
def Replaces (c : Char) (part : List Char) : Prop :=
  if c = '*' then '\n' ∉ part
  else if c = '?' then ∃ d, part = [d] ∧ d ≠ '\n'
  else ∃ d, part = [d] ∧ Unicode.eqFold c d = true

/-- The text is the written pattern with each of its characters replaced. -/
def Written (pattern text : List Char) : Prop :=
  ∃ parts, List.Forall₂ Replaces pattern parts ∧ parts.flatten = text

theorem written_nil {text : List Char} : Written [] text ↔ text = [] := by
  constructor
  · rintro ⟨parts, h, rfl⟩
    rw [List.forall₂_nil_left_iff.1 h, List.flatten_nil]
  · rintro rfl
    exact ⟨[], .nil, rfl⟩

theorem written_cons {c : Char} {pattern text : List Char} : Written (c :: pattern) text ↔
    ∃ part rest, text = part ++ rest ∧ Replaces c part ∧ Written pattern rest := by
  constructor
  · rintro ⟨parts, h, rfl⟩
    obtain ⟨part, parts, hc, hp, rfl⟩ := List.forall₂_cons_left_iff.1 h
    exact ⟨part, parts.flatten, List.flatten_cons, hc, parts, hp, rfl⟩
  · rintro ⟨part, _, rfl, hc, parts, hp, rfl⟩
    exact ⟨part :: parts, .cons hc hp, List.flatten_cons⟩

namespace Glob

variable (g : Glob) {w : Wild} (c : Char) (cs : List Char)

theorem rows_many : rows (.many :: g) cs = beforeMany cs (rows g cs) := rfl

theorem rows_sign (h : w ≠ .many) : rows (w :: g) cs = beforeOne w cs (rows g cs) := by
  cases w with
  | many => exact absurd rfl h
  | char d => rfl
  | one => rfl

/-- The answers for the ends of a text are found among those of any longer text. -/
theorem rows_cons : rows g (c :: cs) = g.accepts (c :: cs) :: rows g cs := by
  have exists_rows_cons : ∃ answer, rows g (c :: cs) = answer :: rows g cs := by
    induction g with
    | nil => exact ⟨false, rfl⟩
    | cons w g ih =>
      obtain ⟨answer, h⟩ := ih
      by_cases hw : w = .many
      · rw [hw, rows_many, h, beforeMany]
        exact ⟨_, rfl⟩
      · rw [rows_sign g _ hw, rows_sign g _ hw, h, beforeOne]
        exact ⟨_, rfl⟩
  obtain ⟨answer, h⟩ := exists_rows_cons
  rw [accepts, h, List.headD_cons]

theorem accepts_nil : accepts [] cs = cs.isEmpty := by
  cases cs <;> rfl

theorem accepts_many_nil : accepts (.many :: g) [] = accepts g [] := rfl

theorem accepts_many_cons : accepts (.many :: g) (c :: cs) =
    (accepts g (c :: cs) || (c != '\n' && accepts (.many :: g) cs)) := by
  rw [accepts, rows_many, rows_cons, beforeMany, List.headD_cons]
  rfl

theorem accepts_sign_nil (h : w ≠ .many) : accepts (w :: g) [] = false := by
  rw [accepts, rows_sign g _ h, beforeOne]
  · rfl
  · intro _ _ _ _ h
    cases h

theorem accepts_sign_cons (h : w ≠ .many) :
    accepts (w :: g) (c :: cs) = (fits w c && accepts g cs) := by
  rw [accepts, rows_sign g _ h, rows_cons, beforeOne, List.headD_cons]
  rfl

/-- A sign for any run takes some characters, none of them a line feed, and leaves the rest. -/
theorem accepts_many_iff : accepts (.many :: g) cs = true ↔
    ∃ part rest, cs = part ++ rest ∧ '\n' ∉ part ∧ accepts g rest = true := by
  induction cs with
  | nil => simp [accepts_many_nil, and_assoc]
  | cons c cs ih =>
    rw [accepts_many_cons, Bool.or_eq_true, Bool.and_eq_true, bne_iff_ne, ih]
    constructor
    · rintro (h | ⟨hc, part, rest, rfl, hp, h⟩)
      · exact ⟨[], c :: cs, rfl, List.not_mem_nil, h⟩
      · exact ⟨c :: part, rest, rfl, List.not_mem_cons_of_ne_of_not_mem hc.symm hp, h⟩
    · rintro ⟨part, rest, he, hp, h⟩
      cases part with
      | nil =>
        obtain rfl : c :: cs = rest := he
        exact .inl h
      | cons d part =>
        obtain ⟨rfl, rfl⟩ := List.cons.inj he
        obtain ⟨hc, hp⟩ := not_or.1 (mt List.mem_cons.2 hp)
        exact .inr ⟨Ne.symm hc, part, rest, rfl, hp, h⟩

theorem accepts_sign_iff (h : w ≠ .many) : accepts (w :: g) cs = true ↔
    ∃ d rest, cs = d :: rest ∧ fits w d = true ∧ accepts g rest = true := by
  cases cs with
  | nil => simp [accepts_sign_nil g h]
  | cons c cs => simp [accepts_sign_cons g c cs h]

end Glob

/-- A wildcard pattern accepts what it is written for. -/
theorem accepts_ofChars_iff {pattern text : List Char} :
    (Glob.ofChars pattern).accepts text = true ↔ Written pattern text := by
  induction pattern generalizing text with
  | nil => rw [written_nil, ← List.isEmpty_iff, ← Glob.accepts_nil]; rfl
  | cons c pattern ih =>
    rw [written_cons, Glob.ofChars, List.map_cons, ← Glob.ofChars]
    by_cases hs : c = '*'
    · simp only [if_pos hs, Glob.accepts_many_iff, Replaces, ih]
    · have hw : (if c = '*' then Wild.many else if c = '?' then .one else .char c) ≠ .many := by
        rw [if_neg hs]
        split <;> nofun
      rw [Glob.accepts_sign_iff _ _ hw, if_neg hs]
      simp only [ih, Replaces, if_neg hs]
      by_cases hq : c = '?'
      · simpa [hq, Glob.fits] using exists_comm
      · simpa [hq, Glob.fits] using exists_comm

instance (pattern text : List Char) : Decidable (Written pattern text) :=
  decidable_of_iff _ accepts_ofChars_iff

end Telemetry.Filter
