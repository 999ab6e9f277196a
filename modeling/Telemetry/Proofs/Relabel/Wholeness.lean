import Telemetry.Config.Publisher
import Telemetry.Proofs.Regex.Wrapping
/-!
# Rules for whole names

A rule is read as its pattern between two ends of a text. Main statement: an accepted pattern can
be read by itself and matches whole names only, unless it closes a group that it does not open.
-/
namespace Telemetry

namespace Relabel

/-- The expression matches all of a name. -/
def MatchesAll (own : Regex) (name : List Char) : Prop :=
  ∃ before, own.expr.expand.Leads ⟨none, name⟩ ⟨before, []⟩

theorem toList_wholeName (pattern : String) : (wholeName pattern).toList =
    ['^', '(', '?', ':'] ++ (pattern.toList ++ Regex.closing) := by
  simp [wholeName, Regex.closing]

/-- What a rule promises of its pattern: it matches the names that all of the pattern matches, its
match is the whole name, and it takes labels from no other names. -/
structure Whole (own : Regex) (rule : Rule) : Prop where
  isMatch_iff : ∀ name, rule.regex.isMatch name = true ↔ MatchesAll own name
  span : ∀ name found, rule.regex.captures name = some found →
    found.group? 0 = some ⟨0, name.length, Nat.zero_le _, Nat.le_refl _⟩
  taken : ∀ name, rule.captures name ≠ [] → MatchesAll own name

variable {config : RuleConfig} {rule : Rule}

theorem compile_eq_ok_iff [Regex.Engine] : config.compile = .ok rule ↔
    Regex.parse (wholeName config.pattern) = .ok rule.regex ∧ rule.groups = config.groups := by
  rw [RuleConfig.compile, Regex.bind_eq_ok]
  constructor
  · rintro ⟨regex, h, he⟩
    cases he
    exact ⟨h, rfl⟩
  · rintro ⟨h, hg⟩
    exact ⟨rule.regex, h, by rw [← hg]⟩

theorem leads_between_iff {e : Regex.Expr} {x y : Regex.Cursor} : e.between.expand.Leads x y ↔
    x.before = none ∧ e.expand.Leads x y ∧ y.rest = [] := by
  simp only [Regex.Expr.between, Regex.Expr.expand, Regex.Node.leads_cat_iff,
    Regex.Node.leads_look_iff]
  constructor
  · rintro ⟨_, ⟨hs, rfl⟩, _, he, hend, rfl⟩
    exact ⟨Option.isNone_iff_eq_none.1 hs, he,
      List.head?_eq_none_iff.1 (Option.isNone_iff_eq_none.1 hend)⟩
  · rintro ⟨hs, he, hend⟩
    exact ⟨x, ⟨Option.isNone_iff_eq_none.2 hs, rfl⟩, y, he, by simp [hend, Regex.Look.holds], rfl⟩

theorem group?_zero {size : Nat} {slots : Regex.Slots} (h0 : slots[0]? = some (some 0))
    (h1 : slots[1]? = some (some size)) : (⟨slots⟩ : Regex.Captures size).group? 0 =
      some ⟨0, size, Nat.zero_le _, Nat.le_refl _⟩ := by
  have hstart : slots.getD 0 none = some 0 := by
    rw [Array.getD_eq_getD_getElem?, h0, Option.getD_some]
  have hstop : slots.getD 1 none = some size := by
    rw [Array.getD_eq_getD_getElem?, h1, Option.getD_some]
  simp [Regex.Captures.group?, hstart, hstop, Span.ofPlaces?]

theorem whole_of_between [Regex.Engine] {own : Regex} (hn : own.expr.Numbered)
    (h : Regex.parse (wholeName config.pattern) = .ok rule.regex)
    (he : rule.regex.expr = own.expr.between) : Whole own rule := by
  have hmatch (name : List Char) : rule.regex.isMatch name = true ↔ MatchesAll own name := by
    rw [Regex.isMatch_iff h, he]
    simp only [leads_between_iff]
    constructor
    · rintro ⟨first, last, ⟨before, rest⟩, rfl, hfirst, hl, rfl⟩
      obtain rfl := List.getLast?_eq_none_iff.1 hfirst
      exact ⟨before, hl⟩
    · rintro ⟨before, hl⟩
      exact ⟨[], name, ⟨before, []⟩, rfl, rfl, hl, rfl⟩
  obtain ⟨e, -, hrule⟩ := Regex.parse_eq_ok_iff.1 h
  refine ⟨hmatch, fun name found hf => ?_, fun name hne => (hmatch name).1 ?_⟩
  · obtain ⟨slots, hs, rfl⟩ := Option.map_eq_some_iff.1 hf
    rw [hrule] at he hs
    dsimp only at he hs
    subst he
    have hsize : 2 ≤ (Array.replicate (2 * (own.expr.between.groupCount + 1))
        (none : Option Nat)).size := by
      rw [Array.size_replicate]
      omega
    obtain ⟨h0, h1⟩ := Regex.marks_between hn.expand hsize (Regex.search_finishes hs)
    exact group?_zero h0 h1
  · rw [Regex.isMatch, Option.isSome_iff_ne_none]
    intro hnone
    exact hne (by rw [Rule.captures, hnone])

/-- A rule that can be read is whole, or its pattern closes a group that it does not open. -/
theorem unopened_or_whole [Regex.Engine] (h : config.compile = .ok rule) :
    Regex.parse config.pattern = .error .groupUnopened ∨
      ∃ own, Regex.parse config.pattern = .ok own ∧ Whole own rule := by
  obtain ⟨hparse, -⟩ := compile_eq_ok_iff.1 h
  obtain ⟨e, he, hrule⟩ := Regex.parse_eq_ok_iff.1 hparse
  rw [toList_wholeName] at he
  rcases Regex.Expr.parse_wrapped he with hp | ⟨own, hp, rfl⟩
  · left
    rw [Regex.parse, hp]
    rfl
  · have hown : Regex.parse config.pattern = .ok ⟨own, own.compile, own.groupCount⟩ :=
      Regex.parse_eq_ok_iff.2 ⟨own, hp, rfl⟩
    refine .inr ⟨_, hown, whole_of_between (Regex.Expr.numbered_of_parse hp) hparse ?_⟩
    rw [hrule]

end Relabel

theorem eq_ok_of_toOption {ε α : Type} {x : Except ε α} {a : α} (h : x.toOption = some a) :
    x = .ok a := by
  cases x with
  | error e => cases h
  | ok b => rw [Option.some.inj h]

theorem exists_ok_of_mapM {α β ε : Type} {f : α → Except ε β} {xs : List α} {ys : List β}
    (h : xs.mapM f = .ok ys) : ∀ x ∈ xs, ∃ y, f x = .ok y := by
  induction xs generalizing ys with
  | nil => exact List.forall_mem_nil _
  | cons x xs ih =>
    rw [List.mapM_cons] at h
    obtain ⟨y, hy, h⟩ := Regex.bind_eq_ok.1 h
    obtain ⟨ys, hys, -⟩ := Regex.bind_eq_ok.1 h
    exact List.forall_mem_cons.2 ⟨⟨y, hy⟩, ih hys⟩

theorem Relabeler.exists_compile_of_ofConfig [Regex.Engine] {rules : List Relabel.RuleConfig}
    {r : Relabeler} (h : ofConfig rules = .ok r) :
    ∀ config ∈ rules, ∃ rule, config.compile = .ok rule := by
  intro config hmem
  obtain ⟨compiled, hmap, -⟩ := Regex.bind_eq_ok.1 h
  obtain ⟨i, hi⟩ := List.getElem?_of_mem hmem
  obtain ⟨rule, hrule⟩ := exists_ok_of_mapM hmap (config, i)
    (List.mem_zipIdx_iff_getElem?.2 hi)
  dsimp only at hrule
  split at hrule
  · exact ⟨_, ‹_›⟩
  · cases hrule

namespace PublisherConfig

theorem exists_compile_of_validate [Regex.Engine] {c : PublisherConfig} (h : c.validate = .ok ()) :
    ∀ config ∈ c.relabel, ∃ rule, config.compile = .ok rule := by
  rw [validate] at h
  split at h
  · cases h
  obtain ⟨-, -, h⟩ := Regex.bind_eq_ok.1 h
  obtain ⟨-, -, h⟩ := Regex.bind_eq_ok.1 h
  obtain ⟨r, hr, -⟩ := Regex.bind_eq_ok.1 h
  rw [relabeler] at hr
  split at hr
  · exact Relabeler.exists_compile_of_ofConfig ‹_›
  · cases hr

end PublisherConfig

namespace Relabel

/-- The configuration of a rule is accepted by itself, or as one of those of a publisher. -/
inductive Accepted [Regex.Engine] (config : RuleConfig) : Prop where
  | compiled (rule : Rule) (h : config.compile = .ok rule)
  | validated (c : PublisherConfig) (h : c.validate = .ok ()) (hmem : config ∈ c.relabel)

/-- An accepted pattern can be read by itself and its rule matches just the names that all of it
matches, as a whole, unless the pattern closes a group that it does not open. -/
theorem accepted_matches_whole [Regex.Engine] {config : RuleConfig} (h : Accepted config) :
    ∃ rule, config.compile = .ok rule ∧
      ((∃ own, Regex.parse config.pattern = .ok own ∧ Whole own rule) ↔
        Regex.parse config.pattern ≠ .error .groupUnopened) := by
  have hcompile : ∃ rule, config.compile = .ok rule := by
    cases h with
    | compiled rule h => exact ⟨rule, h⟩
    | validated c h hmem => exact PublisherConfig.exists_compile_of_validate h config hmem
  obtain ⟨rule, hrule⟩ := hcompile
  refine ⟨rule, hrule, ?_, fun hopened => (unopened_or_whole hrule).resolve_left hopened⟩
  rintro ⟨own, hown, -⟩ herror
  exact nomatch hown.symm.trans herror

attribute [local instance] Regex.Engine.estimating

/-- A choice of two names, the second with a group. -/
private def choosing : RuleConfig :=
  { pattern := "gauge|requests\\.([a-z]+)", groups := [(1, "customer")] }

theorem choosing_matches_whole : ∃ own rule, choosing.compile = .ok rule ∧
    Regex.parse choosing.pattern = .ok own ∧ Whole own rule ∧
      rule.regex.isMatch "gauge".toList = true ∧ rule.regex.isMatch "gauge.x".toList = false := by
  have hc : (choosing.compile.toOption.map fun rule =>
      (rule.regex.isMatch "gauge".toList, rule.regex.isMatch "gauge.x".toList)) =
        some (true, false) := by
    decide +kernel
  have hp : (Regex.parse choosing.pattern).toOption.isSome = true := by
    decide +kernel
  have hopened : Regex.parse choosing.pattern ≠ .error .groupUnopened := by
    intro herror
    rw [herror] at hp
    cases hp
  obtain ⟨first, hfirst, he⟩ := Option.map_eq_some_iff.1 hc
  have hcompiled := eq_ok_of_toOption hfirst
  obtain ⟨rule, hrule, hwhole⟩ := accepted_matches_whole (.compiled first hcompiled)
  obtain ⟨own, hown, hwhole⟩ := hwhole.2 hopened
  obtain rfl : first = rule := Except.ok.inj (hcompiled.symm.trans hrule)
  obtain ⟨hyes, hno⟩ := Prod.mk.inj he
  exact ⟨own, first, hrule, hown, hwhole, hyes, hno⟩

/-- A pattern that closes the group around it and opens another. -/
private def splitting : RuleConfig :=
  { pattern := "a)|(?:b" }

theorem not_accepted_matches_whole :
    ¬ ∀ (config : RuleConfig) (rule : Rule) (name : List Char) (found : Regex.Captures name.length),
      config.compile = .ok rule → rule.regex.captures name = some found →
        found.group? 0 = some ⟨0, name.length, Nat.zero_le _, Nat.le_refl _⟩ := by
  intro h
  have hc : (splitting.compile.toOption.bind fun rule =>
      (rule.regex.captures ['a', 'x']).bind fun found => found.group? 0) =
        some ⟨0, 1, by decide, by decide⟩ := by
    decide +kernel
  obtain ⟨rule, hrule, he⟩ := Option.bind_eq_some_iff.1 hc
  obtain ⟨found, hfound, hspan⟩ := Option.bind_eq_some_iff.1 he
  exact nomatch hspan.symm.trans (h splitting rule _ found (eq_ok_of_toOption hrule) hfound)

end Relabel

end Telemetry
