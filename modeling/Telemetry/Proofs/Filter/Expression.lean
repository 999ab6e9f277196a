import Telemetry.Proofs.Filter.Glob
import Telemetry.Proofs.Regex.Code
import Telemetry.Proofs.Unicode
/-!
# Wildcard patterns as regular expressions

A wildcard pattern is written out as a regular expression for the whole of a name, with flags for
either case and a backslash before each sign that would not stand for itself. Main statement: what
is written out can be read unless it is too large, and then it matches just the texts that the
pattern is written for.
-/
namespace Telemetry

namespace Filter

open Regex

/-- The characters that do not stand for themselves in a regular expression. -/
def isMeta (c : Char) : Bool :=
  ['\\', '.', '+', '*', '?', '(', ')', '|', '[', ']', '\x7b', '\x7d', '^', '$', '#', '&', '-',
    '~'].contains c

/-- What is written out for a character of a pattern. -/
def writeOut (c : Char) : List Char :=
  if c = '*' then ['.', '*']
  else if c = '?' then ['.']
  else if isMeta c then ['\\', c]
  else [c]

/-- The regular expression for a wildcard pattern. -/
def expression (pattern : List Char) : List Char :=
  "(?i)^".toList ++ pattern.flatMap writeOut ++ ['$']

/-- What is read of a character of a pattern. -/
def signExpr (c : Char) : Expr :=
  if c = '*' then .times (.chars .notLineFeed) 0 none true
  else if c = '?' then .chars .notLineFeed
  else .chars (.foldCase (.char c))

/-- What is read of a pattern. -/
def patternExpr (pattern : List Char) : Expr :=
  .cats (.look .textStart :: pattern.map signExpr ++ [.look .textEnd])

theorem expr_ofChars (pattern : List Char) : (Glob.ofChars pattern).expr = patternExpr pattern := by
  have hsign (c : Char) : Wild.expr (if c = '*' then .many else if c = '?' then .one else .char c) =
      signExpr c := by
    rw [signExpr]
    split
    · rfl
    · split <;> rfl
  rw [Glob.expr, Glob.ofChars, patternExpr, List.map_map]
  simp only [Function.comp_def, hsign]

def signDepth (c : Char) : Nat :=
  if c = '*' then 1 else 0

theorem signDepth_le (c : Char) : signDepth c ≤ 1 := by
  rw [signDepth]
  split <;> decide

/-! ## Reading what is written out -/

/-- The state of a reader with either case behind some parts. -/
def reading (parts : List (Option Nested)) : ParseState where
  flags := { ignoreCase := true }
  current := { outer := {}, parts }

section Step

variable (parts : List (Option Nested)) (rest : List Char)

theorem step_open [Regex.Engine] :
    step {} '(' ('?' :: 'i' :: ')' :: rest) = .ok (reading [none], rest) := rfl

theorem step_start [Regex.Engine] : step (reading parts) '^' rest =
    .ok (reading (some ⟨.look .textStart, 0⟩ :: parts), rest) := rfl

theorem step_end [Regex.Engine] : step (reading parts) '$' rest =
    .ok (reading (some ⟨.look .textEnd, 0⟩ :: parts), rest) := rfl

theorem step_dot [Regex.Engine] : step (reading parts) '.' rest =
    .ok (reading (some ⟨.chars .notLineFeed, 0⟩ :: parts), rest) := rfl

theorem step_star [Regex.Engine] (item : Nested) {c : Char} (h : c ≠ '?') :
    step (reading (some item :: parts)) '*' (c :: rest) =
      .ok (reading (some ⟨.times item.expr 0 none true, item.depth + 1⟩ :: parts), c :: rest) := by
  simp only [step, ParseState.repeatLast, reading]
  split
  · rename_i he
    exact absurd (List.cons.inj he).1 h
  · rfl

theorem escape_of_isMeta [Regex.Engine] {c : Char} (h : isMeta c = true) :
    escape { ignoreCase := true } (c :: rest) = .ok (.char c, rest) := by
  simp only [isMeta, List.contains_eq_mem, List.mem_cons, List.not_mem_nil, or_false,
    decide_eq_true_eq] at h
  rcases h with rfl | rfl | rfl | rfl | rfl | rfl | rfl | rfl | rfl | rfl | rfl | rfl | rfl |
    rfl | rfl | rfl | rfl | rfl <;> rfl

theorem step_escaped [Regex.Engine] {c : Char} (h : isMeta c = true) :
    step (reading parts) '\\' (c :: rest) =
      .ok (reading (some ⟨.chars (.foldCase (.char c)), 0⟩ :: parts), rest) := by
  simp only [step, reading, escape_of_isMeta rest h]
  rfl

theorem step_plain [Regex.Engine] {c : Char} (h : isMeta c = false) : step (reading parts) c rest =
    .ok (reading (some ⟨.chars (.foldCase (.char c)), 0⟩ :: parts), rest) := by
  unfold step
  split
  case h_13 => rfl
  all_goals exact absurd h (by decide)

end Step

theorem readAll_cons [Regex.Engine] {s after : ParseState} {fuel : Nat} {c : Char}
    {rest left : List Char} (hs : s.flags.freeSpacing = false)
    (h : step s c rest = .ok (after, left)) :
    readAll (fuel + 1) s (c :: rest) = readAll fuel after left := by
  have hskip : s.flags.skip (c :: rest) = c :: rest := by
    rw [Flags.skip, hs, if_neg Bool.false_ne_true]
  simp only [readAll, hskip, h]
  rfl

/-- What is read of a character of a pattern, with the depth of its nesting. -/
def sign (c : Char) : Nested :=
  ⟨signExpr c, signDepth c⟩

/-- A count before the text stays greedy: the text begins with a sign that is no question mark. -/
def KeepsGreed (rest : List Char) : Prop :=
  ∃ d ds, rest = d :: ds ∧ d ≠ '?'

theorem keepsGreed_writeOut (c : Char) (rest : List Char) : KeepsGreed (writeOut c ++ rest) := by
  unfold writeOut
  split
  · exact ⟨'.', '*' :: rest, rfl, by decide⟩
  · split
    · exact ⟨'.', rest, rfl, by decide⟩
    · rename_i hc
      split
      · exact ⟨'\\', c :: rest, rfl, by decide⟩
      · exact ⟨c, rest, rfl, hc⟩

theorem keepsGreed_flatMap (pattern : List Char) : KeepsGreed (pattern.flatMap writeOut ++ ['$']) := by
  cases pattern with
  | nil => exact ⟨'$', [], rfl, by decide⟩
  | cons c pattern =>
    rw [List.flatMap_cons, List.append_assoc]
    exact keepsGreed_writeOut c _

theorem sign_char {c : Char} (hs : c ≠ '*') (hq : c ≠ '?') :
    sign c = ⟨.chars (.foldCase (.char c)), 0⟩ := by
  rw [sign, signExpr, signDepth, if_neg hs, if_neg hq, if_neg hs]

/-- A character of a pattern is read as it was written out. -/
theorem readAll_writeOut [Regex.Engine] (parts : List (Option Nested)) (c : Char) {rest : List Char}
    (hr : KeepsGreed rest) {fuel : Nat} (hf : (writeOut c ++ rest).length < fuel) :
    ∃ left, rest.length < left ∧ readAll fuel (reading parts) (writeOut c ++ rest) =
      readAll left (reading (some (sign c) :: parts)) rest := by
  rw [List.length_append] at hf
  -- A star is read in two steps; any other sign in one, which takes its backslash with it.
  by_cases hs : c = '*'
  · subst hs
    obtain ⟨d, ds, rfl, hd⟩ := hr
    obtain ⟨left, rfl⟩ : ∃ left, fuel = left + 1 + 1 := ⟨fuel - 2, by simp [writeOut] at hf; omega⟩
    refine ⟨left, by simp [writeOut] at hf ⊢; omega, ?_⟩
    exact (readAll_cons rfl (step_dot parts _)).trans (readAll_cons rfl (step_star parts ds _ hd))
  · obtain ⟨left, rfl⟩ : ∃ left, fuel = left + 1 := ⟨fuel - 1, by omega⟩
    by_cases hq : c = '?'
    · subst hq
      exact ⟨left, by simp [writeOut] at hf; omega, readAll_cons rfl (step_dot parts rest)⟩
    · rw [sign_char hs hq]
      by_cases hm : isMeta c = true
      · have hw : writeOut c = ['\\', c] := by
          rw [writeOut, if_neg hs, if_neg hq, if_pos hm]
        rw [hw] at hf ⊢
        simp at hf
        exact ⟨left, by omega, readAll_cons rfl (step_escaped parts rest hm)⟩
      · have hw : writeOut c = [c] := by
          rw [writeOut, if_neg hs, if_neg hq, if_neg hm]
        rw [hw] at hf ⊢
        simp at hf
        exact ⟨left, by omega, readAll_cons rfl (step_plain parts rest (by simpa using hm))⟩

/-- All parts that are read of a pattern, the latest first. -/
def signs (pattern : List Char) : List (Option Nested) :=
  (pattern.map fun c => some (sign c)).reverse

theorem readAll_flatMap [Regex.Engine] (pattern : List Char) (parts : List (Option Nested))
    {fuel : Nat} (hf : (pattern.flatMap writeOut ++ ['$']).length < fuel) :
    readAll fuel (reading parts) (pattern.flatMap writeOut ++ ['$']) =
      .ok (reading (some ⟨.look .textEnd, 0⟩ :: (signs pattern ++ parts))) := by
  induction pattern generalizing parts fuel with
  | nil =>
    obtain ⟨left, rfl⟩ : ∃ left, fuel = left + 1 + 1 := ⟨fuel - 2, by simp at hf; omega⟩
    exact readAll_cons rfl (step_end parts [])
  | cons c pattern ih =>
    rw [List.flatMap_cons, List.append_assoc] at hf ⊢
    obtain ⟨left, hl, hr⟩ := readAll_writeOut parts c (keepsGreed_flatMap pattern) hf
    rw [hr, ih _ hl]
    simp [signs]

/-- The reader comes through what is written out for a pattern. -/
theorem readAll_expression [Regex.Engine] (pattern : List Char) :
    readAll ((expression pattern).length + 1) {} (expression pattern) = .ok (reading
      (some ⟨.look .textEnd, 0⟩ :: (signs pattern ++ [some ⟨.look .textStart, 0⟩, none]))) := by
  have hw : expression pattern =
      '(' :: '?' :: 'i' :: ')' :: '^' :: (pattern.flatMap writeOut ++ ['$']) := rfl
  rw [hw, List.length_cons, readAll_cons rfl (step_open _), List.length_cons, List.length_cons,
    List.length_cons, readAll_cons rfl (step_start _ _)]
  exact readAll_flatMap pattern _ (by rw [List.length_cons]; omega)

/-! ## Depth -/

theorem deepest_le {items : List Nested} {n : Nat} (h : ∀ item ∈ items, item.depth ≤ n) :
    OpenGroup.deepest items ≤ n := by
  have foldl_le : ∀ (items : List Nested) (m : Nat), m ≤ n → (∀ item ∈ items, item.depth ≤ n) →
      items.foldl (fun n item => max n item.depth) m ≤ n := by
    intro items
    induction items with
    | nil => exact fun m hm _ => hm
    | cons item items ih =>
      intro m hm h
      obtain ⟨hitem, hitems⟩ := List.forall_mem_cons.1 h
      exact ih _ (Nat.max_le.2 ⟨hm, hitem⟩) hitems
  exact foldl_le items 0 (Nat.zero_le n) h

theorem cats_cons_append (e last : Expr) (es : List Expr) :
    Expr.cats (e :: (es ++ [last])) = .cat e (Expr.cats (es ++ [last])) := by
  rw [Expr.cats]
  simp

/-- What is read of a pattern as a whole. -/
def whole (pattern : List Char) : OpenGroup where
  outer := {}
  parts := some ⟨.look .textEnd, 0⟩ :: (signs pattern ++ [some ⟨.look .textStart, 0⟩, none])

theorem filterMap_parts_whole (pattern : List Char) : (whole pattern).parts.reverse.filterMap id =
    ⟨.look .textStart, 0⟩ :: pattern.map sign ++ [⟨.look .textEnd, 0⟩] := by
  simp [whole, signs, List.filterMap_map]

theorem expr_body_whole (pattern : List Char) :
    (whole pattern).body.expr = patternExpr pattern := by
  show (whole pattern).branch.expr = _
  rw [OpenGroup.branch, filterMap_parts_whole, patternExpr]
  simp [Function.comp_def, sign]

theorem depth_body_whole (pattern : List Char) : (whole pattern).body.depth ≤ 2 := by
  have hitems : OpenGroup.deepest ((whole pattern).parts.reverse.filterMap id) ≤ 1 := by
    apply deepest_le
    rw [filterMap_parts_whole]
    simp only [List.cons_append, List.mem_cons, List.mem_append, List.mem_map, List.not_mem_nil,
      or_false]
    rintro _ (rfl | ⟨c, -, rfl⟩ | rfl)
    · exact Nat.zero_le 1
    · exact signDepth_le c
    · exact Nat.zero_le 1
  have hbranch : (whole pattern).branch.depth ≤ 2 := by
    rw [OpenGroup.branch]
    dsimp only
    split <;> omega
  show max 0 (whole pattern).branch.depth ≤ 2
  omega

/-- The written form of a pattern is read unless it is too large. -/
theorem parse_expression [Regex.Engine] (pattern : List Char) : Expr.parse (expression pattern) =
    if Engine.fits (patternExpr pattern) then .ok (patternExpr pattern) else .error .tooLarge := by
  have hdepth : ¬ maxDepth < (whole pattern).body.depth :=
    Nat.not_lt.2 (Nat.le_trans (depth_body_whole pattern) (by decide))
  have hread : readAll ((expression pattern).length + 1) {} (expression pattern) =
      .ok { flags := { ignoreCase := true }, current := whole pattern } :=
    readAll_expression pattern
  rw [Expr.parse, hread, ← expr_body_whole]
  show (if maxDepth < (whole pattern).body.depth then _ else _) = _
  rw [if_neg hdepth]
  cases Engine.fits (whole pattern).body.expr <;> rfl

/-! ## What is matched -/

/-- What is read of a character takes what the character may be replaced by. -/
theorem leads_signExpr_iff {c : Char} {x y : Cursor} : (signExpr c).expand.Leads x y ↔
    ∃ part, Replaces c part ∧ x.rest = part ++ y.rest ∧ y.before = part.getLast?.or x.before := by
  -- A star takes any number of characters, every other sign just one.
  by_cases hs : c = '*'
  · have he : (signExpr c).expand = .star (.chars .notLineFeed) true := by
      rw [signExpr, if_pos hs]
      rfl
    have hr (part : List Char) :
        (∀ d ∈ part, CharClass.notLineFeed.mem d = true) ↔ Replaces c part := by
      simp [Replaces, hs, CharClass.mem_notLineFeed, List.forall_mem_ne']
    simp only [he, Node.leads_star_chars_iff, hr]
  · have he : (signExpr c).expand =
        .chars (if c = '?' then .notLineFeed else .foldCase (.char c)) := by
      rw [signExpr, if_neg hs]
      split <;> rfl
    have hr (d : Char) :
        (if c = '?' then CharClass.notLineFeed else .foldCase (.char c)).mem d = true ↔
          Replaces c [d] := by
      split <;> simp [*, Replaces, CharClass.mem_notLineFeed, CharClass.mem_foldCase_char]
    have hone (part : List Char) (h : Replaces c part) : ∃ d, part = [d] := by
      rw [Replaces, if_neg hs] at h
      split at h <;> exact h.imp fun _ h => h.1
    rw [he, Node.leads_chars_iff]
    simp only [hr]
    constructor
    · rintro ⟨d, hd, hx, hy⟩
      exact ⟨[d], hd, hx, hy⟩
    · rintro ⟨part, hp, hx, hy⟩
      obtain ⟨d, rfl⟩ := hone part hp
      exact ⟨d, hp, hx, hy⟩

/-- What is read of a pattern up to the end of a text leads there if the text is one that the
pattern is written for. -/
theorem leads_signs_iff {pattern : List Char} {x : Cursor} :
    (∃ y, (Expr.cats (pattern.map signExpr ++ [.look .textEnd])).expand.Leads x y) ↔
      Written pattern x.rest := by
  -- Along the pattern: what a sign leaves of the text is for the rest of the pattern.
  induction pattern generalizing x with
  | nil =>
    have he : (Expr.cats (List.map signExpr [] ++ [.look .textEnd])).expand = .look .textEnd := rfl
    rw [he, written_nil]
    simp [Node.leads_look_iff, Look.holds]
  | cons c pattern ih =>
    have he : (Expr.cats ((c :: pattern).map signExpr ++ [.look .textEnd])).expand =
        .cat (signExpr c).expand (Expr.cats (pattern.map signExpr ++ [.look .textEnd])).expand := by
      rw [List.map_cons, List.cons_append, cats_cons_append]
      rfl
    rw [he, written_cons]
    constructor
    · rintro ⟨z, h⟩
      obtain ⟨y, hc, hp⟩ := Node.leads_cat_iff.1 h
      obtain ⟨part, hr, hx, -⟩ := leads_signExpr_iff.1 hc
      exact ⟨part, y.rest, hx, hr, ih.1 ⟨z, hp⟩⟩
    · rintro ⟨part, rest, hx, hr, hp⟩
      let y : Cursor := ⟨part.getLast?.or x.before, rest⟩
      obtain ⟨z, hz⟩ := ih.2 (show Written pattern y.rest from hp)
      exact ⟨z, Node.leads_cat_iff.2 ⟨y, leads_signExpr_iff.2 ⟨part, hr, hx, rfl⟩, hz⟩⟩

/-- The regular expression for a pattern leads on from the start of a text only, and then if the
text is one that the pattern is written for. -/
theorem leads_patternExpr_iff {pattern : List Char} {x : Cursor} :
    (∃ y, (patternExpr pattern).expand.Leads x y) ↔ x.before = none ∧ Written pattern x.rest := by
  have he : (patternExpr pattern).expand = .cat (.look .textStart)
      (Expr.cats (pattern.map signExpr ++ [.look .textEnd])).expand := by
    rw [patternExpr, List.cons_append, cats_cons_append]
    rfl
  simp only [he, Node.leads_cat_iff, Node.leads_look_iff, ← leads_signs_iff (x := x)]
  simp [Look.holds]

/-- Once the written form of a pattern is read, it matches what the pattern is written for. -/
theorem isMatch_expression_iff [Regex.Engine] {pattern text : List Char} {r : Regex}
    (h : Regex.parse (String.ofList (expression pattern)) = .ok r) :
    r.isMatch text = true ↔ Written pattern text := by
  have hr : r.expr = patternExpr pattern := by
    obtain ⟨e, he, rfl⟩ := parse_eq_ok_iff.1 h
    rw [String.toList_ofList, parse_expression] at he
    split at he
    · exact (Except.ok.inj he).symm
    · cases he
  rw [Regex.isMatch_iff h, hr]
  constructor
  · rintro ⟨first, last, y, rfl, hl⟩
    obtain ⟨hb, hw⟩ := leads_patternExpr_iff.1 ⟨y, hl⟩
    rw [List.getLast?_eq_none_iff.1 hb]
    exact hw
  · intro hw
    obtain ⟨y, hl⟩ := (leads_patternExpr_iff (x := ⟨none, text⟩)).2 ⟨rfl, hw⟩
    exact ⟨[], text, y, rfl, hl⟩

end Filter

end Telemetry
