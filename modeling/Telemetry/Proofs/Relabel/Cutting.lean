import Mathlib.Data.List.Basic
import Telemetry.Proofs.Relabel.Pairing
/-!
# What relabeling leaves of a name

Ranges of a name are cut out in the order of their starts, with a place up to which all is settled.
Main statement: what is left are the characters that no captured range covers, in whatever way the
ranges overlap, with the dots around the gaps cleaned up; and no text is ever taken from places that
lie outside the name, inside a character or in the wrong order.
-/
namespace Telemetry

namespace Relabel

/-- The characters of a text at places, counted from `first`, of which `P` does not hold. -/
def sparedFrom (P : Nat → Prop) [DecidablePred P] (first : Nat) (cs : List Char) : List Char :=
  ((cs.zipIdx first).filter fun entry => ¬ P entry.2).map (·.1)

section Spared

variable {P Q : Nat → Prop} [DecidablePred P] [DecidablePred Q] {first : Nat} {a b cs : List Char}

theorem sparedFrom_append : sparedFrom P first (a ++ b) =
    sparedFrom P first a ++ sparedFrom P (first + a.length) b := by
  rw [sparedFrom, List.zipIdx_append, List.filter_append, List.map_append]
  rfl

theorem sparedFrom_of_all (h : ∀ i, first ≤ i → i < first + cs.length → P i) :
    sparedFrom P first cs = [] := by
  induction cs generalizing first with
  | nil => rfl
  | cons c cs ih =>
    rw [List.length_cons] at h
    have hc : P first := h first (Nat.le_refl _) (by omega)
    have hcs : sparedFrom P (first + 1) cs = [] :=
      ih fun i hi hl => h i (by omega) (by omega)
    simpa [sparedFrom, hc] using hcs

theorem sparedFrom_of_none (h : ∀ i, first ≤ i → i < first + cs.length → ¬ P i) :
    sparedFrom P first cs = cs := by
  induction cs generalizing first with
  | nil => rfl
  | cons c cs ih =>
    rw [List.length_cons] at h
    have hc : ¬ P first := h first (Nat.le_refl _) (by omega)
    have hcs : sparedFrom P (first + 1) cs = cs :=
      ih fun i hi hl => h i (by omega) (by omega)
    simpa [sparedFrom, hc] using hcs

theorem sparedFrom_congr (h : ∀ i, first ≤ i → i < first + cs.length → (P i ↔ Q i)) :
    sparedFrom P first cs = sparedFrom Q first cs := by
  induction cs generalizing first with
  | nil => rfl
  | cons c cs ih =>
    rw [List.length_cons] at h
    have hc : P first ↔ Q first := h first (Nat.le_refl _) (by omega)
    have hcs : sparedFrom P (first + 1) cs = sparedFrom Q (first + 1) cs :=
      ih fun i hi hl => h i (by omega) (by omega)
    by_cases hp : P first
    · simpa [sparedFrom, hp, hc.1 hp] using hcs
    · simpa [sparedFrom, hp, mt hc.2 hp] using hcs

end Spared

/-- Some of the ranges covers the place. -/
def Covers {size : Nat} (spans : List (Span size)) (i : Nat) : Prop :=
  ∃ s ∈ spans, s.start ≤ i ∧ i < s.stop

instance {size : Nat} (spans : List (Span size)) : DecidablePred (Covers spans) := fun i =>
  inferInstanceAs (Decidable (∃ s ∈ spans, s.start ≤ i ∧ i < s.stop))

theorem sparedFrom_drop {P : Nat → Prop} [DecidablePred P] {name : List Char} {i j : Nat}
    (hij : i ≤ j) (hj : j ≤ name.length) : sparedFrom P i (name.drop i) =
      sparedFrom P i ((name.drop i).take (j - i)) ++ sparedFrom P j (name.drop j) := by
  have hsplit : (name.drop i).take (j - i) ++ name.drop j = name.drop i := by
    rw [← Nat.add_sub_cancel' hij, ← List.drop_drop, Nat.add_sub_cancel_left,
      List.take_append_drop]
  have hlength : i + ((name.drop i).take (j - i)).length = j := by
    rw [List.length_take, List.length_drop]
    omega
  rw [← hsplit, sparedFrom_append, hsplit, hlength]

/-- What is left behind a place, when ranges are cut out in order, are the characters that none of
them covers. -/
theorem remaining_eq {name : List Char} {spans : List (Span name.length)}
    (h : spans.Pairwise (·.start ≤ ·.start)) {pos : Nat} (hp : pos ≤ name.length) :
    remaining name pos spans = sparedFrom (Covers spans) pos (name.drop pos) := by
  induction spans generalizing pos with
  | nil =>
    rw [remaining, sparedFrom_of_none]
    rintro i - - ⟨s, hs, -⟩
    cases hs
  | cons s spans ih =>
    obtain ⟨hs, h⟩ := List.pairwise_cons.1 h
    have hstart := s.start_le_stop
    have hstop := s.stop_le_size
    have hsub : s.start - pos = max pos s.start - pos := by omega
    -- before the range nothing is covered, in it everything, and behind it only the others count
    have hbefore : sparedFrom (Covers (s :: spans)) pos
        ((name.drop pos).take (max pos s.start - pos)) =
          (name.drop pos).take (max pos s.start - pos) := by
      apply sparedFrom_of_none
      rintro i hi hl ⟨u, hu, hiu, -⟩
      rw [List.length_take, List.length_drop] at hl
      rcases List.mem_cons.1 hu with rfl | hu
      · omega
      · have hsu := hs u hu
        omega
    have hwithin : sparedFrom (Covers (s :: spans)) (max pos s.start)
        ((name.drop (max pos s.start)).take (max pos s.stop - max pos s.start)) = [] := by
      apply sparedFrom_of_all
      intro i hi hl
      rw [List.length_take, List.length_drop] at hl
      exact ⟨s, List.mem_cons_self, by omega, by omega⟩
    have hbehind : sparedFrom (Covers (s :: spans)) (max pos s.stop)
        (name.drop (max pos s.stop)) = remaining name (max pos s.stop) spans := by
      rw [ih h (Nat.max_le.2 ⟨hp, hstop⟩)]
      apply sparedFrom_congr
      intro i hi _
      simp only [Covers, List.mem_cons, exists_eq_or_imp]
      exact or_iff_right fun hc => by omega
    have hfirst : max pos s.start ≤ max pos s.stop := by omega
    calc remaining name pos (s :: spans)
      _ = (name.drop pos).take (max pos s.start - pos) ++
          ([] ++ remaining name (max pos s.stop) spans) := by
        rw [remaining, hsub, List.nil_append]
      _ = sparedFrom (Covers (s :: spans)) pos ((name.drop pos).take (max pos s.start - pos)) ++
          sparedFrom (Covers (s :: spans)) (max pos s.start) (name.drop (max pos s.start)) := by
        rw [sparedFrom_drop hfirst (Nat.max_le.2 ⟨hp, hstop⟩), hbefore, hwithin, hbehind]
      _ = sparedFrom (Covers (s :: spans)) pos (name.drop pos) :=
        (sparedFrom_drop (Nat.le_max_left _ _) (by omega)).symm

/-- Ranges in the order of their starts. -/
def sorted {size : Nat} (spans : List (Span size)) : List (Span size) :=
  spans.mergeSort fun a b => a.start ≤ b.start

theorem pairwise_sorted {size : Nat} (spans : List (Span size)) :
    (sorted spans).Pairwise (·.start ≤ ·.start) := by
  have h : (sorted spans).Pairwise fun a b => decide (a.start ≤ b.start) = true :=
    List.pairwise_mergeSort
      (fun a b c hab hbc => by simp only [decide_eq_true_eq] at hab hbc ⊢; omega)
      (fun a b => by simp only [Bool.or_eq_true, decide_eq_true_eq]; omega) spans
  exact h.imp fun h => of_decide_eq_true h

theorem mem_sorted {size : Nat} {spans : List (Span size)} {s : Span size} :
    s ∈ sorted spans ↔ s ∈ spans :=
  (List.mergeSort_perm spans _).mem_iff

/-- Cutting takes out just the characters that some range covers. -/
theorem cut_eq {name : List Char} (spans : List (Span name.length)) :
    cut name spans = Text.collapse '.' (sparedFrom (Covers spans) 0 name) := by
  have hcovers (i : Nat) : Covers (sorted spans) i ↔ Covers spans i := by
    simp only [Covers, mem_sorted]
  have hcut : cut name spans = Text.collapse '.' (remaining name 0 (sorted spans)) := rfl
  rw [hcut, remaining_eq (pairwise_sorted spans) (Nat.zero_le _), List.drop_zero]
  exact congrArg _ (sparedFrom_congr fun i _ _ => hcovers i)

/-! ## Positions in bytes -/

/-- The text between two positions of a name, counted in bytes. There is none if a position is
behind the name or inside a character, or if the two are in the wrong order. -/
def slice? (name : String) (start stop : Nat) : Option String :=
  if start ≤ stop ∧ String.Pos.Raw.IsValid name ⟨start⟩ ∧ String.Pos.Raw.IsValid name ⟨stop⟩ then
    some (String.Pos.Raw.extract name ⟨start⟩ ⟨stop⟩)
  else none

/-- What is left of a name from position `pos` on when ranges of bytes are cut out in order. -/
def cutBytes? (name : String) : (pos : Nat) → List (Nat × Nat) → Option String
  | pos, [] => slice? name pos name.utf8ByteSize
  | pos, (start, stop) :: cuts => do
    let part ← if pos ≤ start then slice? name pos start else some ""
    let rest ← cutBytes? name (max pos stop) cuts
    some (part ++ rest)

/-- The position in bytes of a place between characters. -/
def offset (name : List Char) (i : Nat) : Nat :=
  (String.ofList (name.take i)).utf8ByteSize

def byteRange (name : List Char) (s : Span name.length) : Nat × Nat :=
  (offset name s.start, offset name s.stop)

section Bytes

variable {name : List Char} {i j : Nat}

theorem offset_append (h : i ≤ j) : offset name j =
    offset name i + (String.ofList ((name.drop i).take (j - i))).utf8ByteSize := by
  rw [offset, offset, ← String.utf8ByteSize_append, ← String.ofList_append, ← List.take_add,
    Nat.add_sub_cancel' h]

theorem offset_lt (h : i < j) (hj : j ≤ name.length) : offset name i < offset name j := by
  rw [offset_append (Nat.le_of_lt h)]
  obtain ⟨c, cs, hc⟩ : ∃ c cs, (name.drop i).take (j - i) = c :: cs := by
    apply List.exists_cons_of_length_pos
    rw [List.length_take, List.length_drop]
    exact Nat.lt_min.2 ⟨Nat.sub_pos_of_lt h, Nat.sub_pos_of_lt (Nat.lt_of_lt_of_le h hj)⟩
  have hpos := c.utf8Size_pos
  rw [hc, String.ofList_cons, String.utf8ByteSize_append, String.utf8ByteSize_singleton]
  omega

theorem offset_le_iff (hi : i ≤ name.length) :
    offset name i ≤ offset name j ↔ i ≤ j := by
  constructor
  · intro h
    by_contra hlt
    have := offset_lt (Nat.not_le.1 hlt) hi
    omega
  · intro h
    rw [offset_append h]
    exact Nat.le_add_right _ _

theorem offset_max (hi : i ≤ name.length) :
    max (offset name i) (offset name j) = offset name (max i j) := by
  have h := offset_le_iff (j := j) hi
  by_cases hij : i ≤ j
  · rw [Nat.max_eq_right hij, Nat.max_eq_right (h.2 hij)]
  · have hji := Nat.le_of_not_le (mt h.1 hij)
    rw [Nat.max_eq_left (Nat.le_of_not_le hij), Nat.max_eq_left hji]

theorem isValid_offset (name : List Char) (i : Nat) :
    String.Pos.Raw.IsValid (String.ofList name) ⟨offset name i⟩ :=
  String.Pos.Raw.isValid_ofList.2 ⟨i, rfl⟩

theorem slice?_offset (hij : i ≤ j) (hj : j ≤ name.length) :
    slice? (String.ofList name) (offset name i) (offset name j) =
      some (String.ofList ((name.drop i).take (j - i))) := by
  have hle := (offset_le_iff (Nat.le_trans hij hj)).2 hij
  have hname : name = name.take i ++ (name.drop i).take (j - i) ++ name.drop j := by
    rw [← List.take_add, Nat.add_sub_cancel' hij, List.take_append_drop]
  have hextract := String.extract_of_valid (name.take i) ((name.drop i).take (j - i)) (name.drop j)
  rw [← hname, ← String.utf8ByteSize_ofList, ← String.utf8ByteSize_ofList] at hextract
  rw [slice?, if_pos ⟨hle, isValid_offset name i, isValid_offset name j⟩, offset_append hij]
  exact congrArg some hextract

/-- Cutting by bytes never takes text from anywhere but between two characters of the name. -/
theorem cutBytes?_eq (spans : List (Span name.length)) {pos : Nat} (hp : pos ≤ name.length) :
    cutBytes? (String.ofList name) (offset name pos) (spans.map (byteRange name)) =
      some (String.ofList (remaining name pos spans)) := by
  induction spans generalizing pos with
  | nil =>
    have hend : (String.ofList name).utf8ByteSize = offset name name.length := by
      rw [offset, List.take_length]
    rw [List.map_nil, cutBytes?, hend, slice?_offset hp (Nat.le_refl _), remaining,
      ← List.length_drop, List.take_length]
  | cons s spans ih =>
    have hstop := s.stop_le_size
    have hstart := Nat.le_trans s.start_le_stop hstop
    have hrest := ih (Nat.max_le.2 ⟨hp, hstop⟩)
    rw [List.map_cons, byteRange, cutBytes?, offset_max hp, hrest, remaining,
      String.ofList_append]
    by_cases hps : pos ≤ s.start
    · rw [if_pos ((offset_le_iff hp).2 hps), slice?_offset hps hstart]
      rfl
    · rw [if_neg (mt (offset_le_iff hp).1 hps), Nat.sub_eq_zero_of_le (Nat.le_of_not_le hps)]
      rfl

/-- Ranges of bytes come in the same order as the ranges of places they stand for. -/
theorem map_byteRange_sorted (spans : List (Span name.length)) :
    (sorted spans).map (byteRange name) =
      (spans.map (byteRange name)).mergeSort fun a b => a.1 ≤ b.1 := by
  apply List.map_mergeSort
  intro a _ b _
  rw [decide_eq_decide]
  exact (offset_le_iff (Nat.le_trans a.start_le_stop a.stop_le_size)).symm

end Bytes

end Relabel

namespace Relabeler

open Relabel

/-- A configured group that takes part in the match of its rule covers the place. -/
def Covered (r : Relabeler) (name : List Char) (i : Nat) : Prop :=
  ∃ rule ∈ r.rules, ∃ found, rule.regex.captures name = some found ∧
    ∃ entry ∈ rule.groups, ∃ span, found.group? entry.1 = some span ∧
      span.start ≤ i ∧ i < span.stop

variable {r : Relabeler} {name : List Char} {l l' : Labels}

theorem mem_captures {c : Capture name.length} : c ∈ r.captures name ↔
    ∃ rule ∈ r.rules, ∃ found, rule.regex.captures name = some found ∧
      (∃ group, (group, c.label) ∈ rule.groups ∧ found.group? group = some c.span) := by
  rw [captures, List.mem_flatMap]
  refine exists_congr fun rule => and_congr_right fun _ => ?_
  unfold Rule.captures
  cases rule.regex.captures name with
  | none => simp
  | some found =>
    simp only [List.mem_filterMap, Option.map_eq_some_iff, Prod.exists, Option.some.injEq,
      exists_eq_left']
    constructor
    · rintro ⟨group, label, hm, span, hs, rfl⟩
      exact ⟨group, hm, hs⟩
    · rintro ⟨group, hm, hs⟩
      exact ⟨group, c.label, hm, c.span, hs, rfl⟩

theorem covers_captures_iff {i : Nat} :
    Covers ((r.captures name).map (·.span)) i ↔ r.Covered name i := by
  simp only [Covers, List.mem_map, exists_exists_and_eq_and, mem_captures, Covered]
  constructor
  · rintro ⟨c, ⟨rule, hr, found, hf, group, hm, hs⟩, hi⟩
    exact ⟨rule, hr, found, hf, (group, c.label), hm, c.span, hs, hi⟩
  · rintro ⟨rule, hr, found, hf, ⟨group, label⟩, hm, span, hs, hi⟩
    exact ⟨⟨label, span⟩, ⟨rule, hr, found, hf, group, hm, hs⟩, hi⟩

instance : DecidablePred (r.Covered name) := fun _ => decidable_of_iff _ covers_captures_iff

theorem apply_eq_none_iff : r.apply l = none ↔ ∀ t, ¬ r.Takes l.name.toList t := by
  have htaken : r.captures l.name.toList = [] ↔ r.taken l.name.toList = [] := by
    rw [← List.map_eq_nil_iff, ← map_pair_taken, List.map_eq_nil_iff]
  rw [← List.eq_nil_iff_forall_not_mem.trans (forall_congr' fun t => not_congr mem_taken),
    ← htaken, apply]
  split <;> simp [*]

theorem spared_captures (r : Relabeler) (name : List Char) :
    cut name ((r.captures name).map (·.span)) =
      Text.collapse '.' (sparedFrom (r.Covered name) 0 name) := by
  rw [cut_eq]
  exact congrArg _ (sparedFrom_congr fun _ _ _ => covers_captures_iff)

/-- The new name, if anything was captured. -/
theorem map_name_apply (r : Relabeler) (l : Labels) : (r.apply l).map (·.name) =
    if r.captures l.name.toList = [] then none
    else some (String.ofList (Text.collapse '.'
      (sparedFrom (r.Covered l.name.toList) 0 l.name.toList))) := by
  rw [← spared_captures, apply]
  split
  · rename_i hc
    rw [if_pos hc]
    rfl
  · rename_i hc
    rw [hc, if_neg (List.cons_ne_nil _ _)]
    rfl

theorem name_apply (h : r.apply l = some l') : l'.name.toList =
    Text.collapse '.' (sparedFrom (r.Covered l.name.toList) 0 l.name.toList) := by
  have hn := r.map_name_apply l
  rw [h, Option.map_some] at hn
  split at hn
  · cases hn
  · rw [Option.some.inj hn, String.toList_ofList]

/-- Rules that are the same but for their order and repetitions give the same name. -/
theorem map_name_apply_congr {r' : Relabeler} (h : ∀ rule, rule ∈ r'.rules ↔ rule ∈ r.rules)
    (l : Labels) : (r'.apply l).map (·.name) = (r.apply l).map (·.name) := by
  have hcovered (i : Nat) : r'.Covered l.name.toList i ↔ r.Covered l.name.toList i := by
    simp only [Covered, h]
  have hnil : r'.captures l.name.toList = [] ↔ r.captures l.name.toList = [] := by
    simp only [List.eq_nil_iff_forall_not_mem, mem_captures, h]
  rw [map_name_apply, map_name_apply, sparedFrom_congr fun i _ _ => hcovered i]
  simp only [hnil]

/-- Relabeling gives nothing just if no configured group takes part in a match. Else the name that
is left is made of the characters that no captured range covers, with single dots between its
segments, and the order of the rules makes no difference to it. This is so whatever ranges there
are, and no text is taken from outside of the name or from within a character. -/
theorem cuts_captured_text (r : Relabeler) (l : Labels) :
    (r.apply l = none ↔ ∀ t, ¬ r.Takes l.name.toList t) ∧
    (∀ l', r.apply l = some l' →
      l'.name.toList = Text.collapse '.'
        (sparedFrom (r.Covered l.name.toList) 0 l.name.toList) ∧
      l'.name.toList.head? ≠ some '.' ∧ l'.name.toList.getLast? ≠ some '.' ∧
      ¬ ['.', '.'] <:+: l'.name.toList) ∧
    (∀ r' : Relabeler, (∀ rule, rule ∈ r'.rules ↔ rule ∈ r.rules) →
      (r'.apply l).map (·.name) = (r.apply l).map (·.name)) ∧
    ∀ (name : List Char) (spans : List (Span name.length)),
      cut name spans = Text.collapse '.' (sparedFrom (Covers spans) 0 name) ∧
      ∃ left, cutBytes? (String.ofList name) 0
          ((spans.map (byteRange name)).mergeSort fun a b => a.1 ≤ b.1) = some left ∧
        cut name spans = Text.collapse '.' left.toList := by
  refine ⟨apply_eq_none_iff, ?_, fun r' h => map_name_apply_congr h l, ?_⟩
  · intro l' h
    have hn := name_apply h
    refine ⟨hn, ?_⟩
    rw [hn]
    exact Text.collapse_neat '.' _
  · intro name spans
    refine ⟨cut_eq spans, String.ofList (remaining name 0 (sorted spans)), ?_, ?_⟩
    · rw [← map_byteRange_sorted]
      exact cutBytes?_eq (sorted spans) (Nat.zero_le _)
    · rw [String.toList_ofList]
      rfl

attribute [local instance] Regex.Engine.estimating

/-- Rules whose ranges nest, overlap and touch. -/
private def byZone : List RuleConfig :=
  [{ pattern := "([a-z]+\\.(ü1))\\.api.*", groups := [(1, "zone"), (2, "host")] },
    { pattern := "dc\\.ü(1\\.)api\\.(.*)", groups := [(1, "number"), (2, "rest")] }]

private def ofZones : Relabeler :=
  (ofConfig byZone).toOption.getD {}

theorem cuts_overlapping_text :
    let l : Labels := .ofName "dc.ü1.api..x"
    ∃ l', ofZones.apply l = some l' ∧ l'.name = "api" ∧
      l'.backValues = ["dc.ü1", "ü1", "1.", ".x"] ∧
      l'.name.toList = Text.collapse '.'
        (sparedFrom (ofZones.Covered l.name.toList) 0 l.name.toList) := by
  intro l
  have hl : ofZones.apply l = some { l with
      name := "api"
      backNames := ["zone", "host", "number", "rest"]
      backValues := ["dc.ü1", "ü1", "1.", ".x"] } := by
    cbv
  obtain ⟨-, hn, -⟩ := cuts_captured_text ofZones l
  exact ⟨_, hl, rfl, rfl, (hn _ hl).1⟩

end Relabeler

end Telemetry
