import Mathlib
import Telemetry.Exposition.Name
import Telemetry.Relabel
/-!
# How captured texts are paired with label names

A relabeled metric keeps its labels, and captured texts come behind them. The names and the values
behind a base name are two lists, and a captured text is added to both ends. Main statements: the
pairs of the relabeled metric in general, when they are the old pairs followed by the captured
ones, and that they are so where every value has a name.
-/
namespace Telemetry

namespace Relabel

/-- A group that took part in the match of a rule, both by their numbers, with the label it becomes
and the text it captured. -/
structure Taken where
  rule : Nat
  group : Nat
  label : String
  text : String
deriving DecidableEq, Repr

namespace Taken

def pair (t : Taken) : String × String :=
  (t.label, t.text)

/-- The order of rules, and of groups within a rule. -/
def Before (t u : Taken) : Prop :=
  t.rule < u.rule ∨ t.rule = u.rule ∧ t.group < u.group

end Taken

/-- What the rule of a number takes from a name. -/
def Rule.taken (rule : Rule) (number : Nat) (name : List Char) : List Taken :=
  match rule.regex.captures name with
  | none => []
  | some found =>
    rule.groups.filterMap fun entry =>
      (found.group? entry.1).map fun span =>
        { rule := number, group := entry.1, label := entry.2, text := String.ofList (span.text name) }

end Relabel

namespace Relabeler

open Relabel

def taken (r : Relabeler) (name : List Char) : List Taken :=
  r.rules.zipIdx.flatMap fun (rule, number) => rule.taken number name

/-- A configured group takes part in the match of its rule. -/
def Takes (r : Relabeler) (name : List Char) (t : Taken) : Prop :=
  ∃ rule, r.rules[t.rule]? = some rule ∧ (t.group, t.label) ∈ rule.groups ∧
    ∃ found, rule.regex.captures name = some found ∧
      ∃ span, found.group? t.group = some span ∧ t.text = String.ofList (span.text name)

/-- The groups of every rule are listed by ascending numbers, each once. -/
def Ascending (r : Relabeler) : Prop :=
  ∀ rule ∈ r.rules, rule.groups.Pairwise (·.1 < ·.1)

end Relabeler

namespace Relabel

variable {rule : Rule} {number : Nat} {name : List Char}

theorem rule_of_mem_taken {t : Taken} (h : t ∈ rule.taken number name) : t.rule = number := by
  unfold Rule.taken at h
  split at h
  · cases h
  · obtain ⟨entry, -, he⟩ := List.mem_filterMap.1 h
    obtain ⟨span, -, rfl⟩ := Option.map_eq_some_iff.1 he
    rfl

theorem Rule.mem_taken {t : Taken} : t ∈ rule.taken number name ↔
    t.rule = number ∧ (t.group, t.label) ∈ rule.groups ∧
      ∃ found, rule.regex.captures name = some found ∧
        ∃ span, found.group? t.group = some span ∧ t.text = String.ofList (span.text name) := by
  constructor
  · intro h
    refine ⟨rule_of_mem_taken h, ?_⟩
    unfold Rule.taken at h
    split at h
    · cases h
    · rename_i found hf
      obtain ⟨⟨group, label⟩, hm, he⟩ := List.mem_filterMap.1 h
      obtain ⟨span, hs, rfl⟩ := Option.map_eq_some_iff.1 he
      exact ⟨hm, found, hf, span, hs, rfl⟩
  · rintro ⟨rfl, hm, found, hf, span, hs, ht⟩
    rw [Rule.taken, hf]
    refine List.mem_filterMap.2 ⟨(t.group, t.label), hm, ?_⟩
    rw [hs, Option.map_some, ← ht]

theorem Rule.pairwise_taken (h : rule.groups.Pairwise (·.1 < ·.1)) :
    (rule.taken number name).Pairwise Taken.Before := by
  unfold Rule.taken
  split
  · exact .nil
  · refine List.Pairwise.filterMap _ ?_ h
    intro entry other hlt t ht u hu
    obtain ⟨span, -, rfl⟩ := Option.map_eq_some_iff.1 ht
    obtain ⟨span', -, rfl⟩ := Option.map_eq_some_iff.1 hu
    exact .inr ⟨rfl, hlt⟩

theorem Rule.map_pair_taken (rule : Rule) (number : Nat) (name : List Char) :
    (rule.taken number name).map Taken.pair =
      (rule.captures name).map fun c => (c.label, String.ofList (c.span.text name)) := by
  cases hf : rule.regex.captures name with
  | none => rw [Rule.taken, Rule.captures, hf, List.map_nil, List.map_nil]
  | some found =>
    rw [Rule.taken, Rule.captures, hf, List.map_filterMap, List.map_filterMap]
    simp only [Option.map_map]
    rfl

end Relabel

namespace Labels

/-- The names behind the base name for which there are no values yet. -/
def unfilledNames (l : Labels) : List String :=
  l.backNames.drop l.backValues.length

theorem foldl_append {α : Type} (label text : α → String) (added : List α) (l : Labels) :
    added.foldl (fun l a => l.append (label a) (text a)) l =
      { l with
        backNames := l.backNames ++ added.map label
        backValues := l.backValues ++ added.map text } := by
  induction added generalizing l with
  | nil => simp
  | cons a added ih =>
    rw [List.foldl_cons, ih]
    simp [append]

/-- Pairs of two lists that grow alike at their ends: what was left over of the longer one comes
before what is new. -/
theorem zip_append_append {α β : Type} (as : List α) (bs : List β) {as' : List α} {bs' : List β} :
    (as ++ as').zip (bs ++ bs') =
      as.zip bs ++ (as.drop bs.length ++ as').zip (bs.drop as.length ++ bs') := by
  induction as generalizing bs with
  | nil => simp
  | cons a as ih =>
    cases bs with
    | nil => simp
    | cons b bs => simp [ih]

/-- Pairs made of too many names or too many values are those of two lists just if these lists come
first. -/
theorem zip_eq_zip_iff {α β : Type} {as as' : List α} {bs bs' : List β}
    (hl : as'.length = bs'.length) (hm : min as.length bs.length = as'.length) :
    as.zip bs = as'.zip bs' ↔ as' <+: as ∧ bs' <+: bs := by
  have ha : (as.take as'.length).length = as'.length := by
    rw [List.length_take]
    omega
  have hb : (bs.take as'.length).length = as'.length := by
    rw [List.length_take]
    omega
  rw [List.zip_eq_zip_take_min, hm, List.prefix_iff_eq_take, List.prefix_iff_eq_take, ← hl]
  constructor
  · intro h
    have hf := congrArg (List.map Prod.fst) h
    have hs := congrArg (List.map Prod.snd) h
    rw [List.map_fst_zip (by omega), List.map_fst_zip (by omega)] at hf
    rw [List.map_snd_zip (by omega), List.map_snd_zip (by omega)] at hs
    exact ⟨hf.symm, hs.symm⟩
  · rintro ⟨hf, hs⟩
    rw [← hf, ← hs]

end Labels

namespace Relabeler

open Relabel

variable {r : Relabeler} {name : List Char} {l l' : Labels}

theorem mem_taken {t : Taken} : t ∈ r.taken name ↔ r.Takes name t := by
  simp only [taken, List.mem_flatMap, Prod.exists, List.mk_mem_zipIdx_iff_getElem?, Rule.mem_taken,
    Takes]
  constructor
  · rintro ⟨rule, number, hr, rfl, ht⟩
    exact ⟨rule, hr, ht⟩
  · rintro ⟨rule, hr, ht⟩
    exact ⟨rule, t.rule, hr, rfl, ht⟩

theorem pairwise_taken (h : r.Ascending) : (r.taken name).Pairwise Taken.Before := by
  refine List.pairwise_flatMap.2 ⟨?_, ?_⟩
  · rintro ⟨rule, number⟩ hr
    exact Rule.pairwise_taken (h rule (List.fst_mem_of_mem_zipIdx hr))
  · have hlt : r.rules.zipIdx.Pairwise (·.2 < ·.2) := by
      have hs : (r.rules.zipIdx.map (·.2)).Pairwise (· < ·) := by
        rw [List.zipIdx_map_snd]
        exact List.pairwise_lt_range'
      exact List.pairwise_map.1 hs
    refine hlt.imp ?_
    intro entry other hlt t ht u hu
    refine .inl ?_
    rwa [rule_of_mem_taken ht, rule_of_mem_taken hu]

theorem map_pair_taken (r : Relabeler) (name : List Char) : (r.taken name).map Taken.pair =
    (r.captures name).map fun c => (c.label, String.ofList (c.span.text name)) := by
  rw [taken, captures, List.map_flatMap, List.map_flatMap]
  simp only [Rule.map_pair_taken]
  rw [← List.flatMap_map (f := Prod.fst) (g := fun rule : Rule =>
    (rule.captures name).map fun c => (c.label, String.ofList (c.span.text name)))]
  rw [List.zipIdx_map_fst]

/-- What is behind the base name of a relabeled metric: the old names and values, with the captured
ones at the end of either list. -/
theorem labels_apply (h : r.apply l = some l') :
    l'.frontName = l.frontName ∧ l'.frontValue = l.frontValue ∧
      l'.backNames = l.backNames ++ (r.taken l.name.toList).map (·.label) ∧
      l'.backValues = l.backValues ++ (r.taken l.name.toList).map (·.text) := by
  have hp := r.map_pair_taken l.name.toList
  have hlabels := congrArg (List.map Prod.fst) hp
  have htexts := congrArg (List.map Prod.snd) hp
  simp only [List.map_map] at hlabels htexts
  change (r.taken _).map (·.label) = _ at hlabels
  change (r.taken _).map (·.text) = _ at htexts
  cases hc : r.captures l.name.toList with
  | nil => simp only [apply, hc, reduceCtorEq] at h
  | cons first more =>
    simp only [apply, hc] at h
    rw [hlabels, htexts, hc, ← Option.some.inj h, Labels.foldl_append]
    exact ⟨rfl, rfl, rfl, rfl⟩

/-- The pairs of a relabeled metric. They are the old pairs followed by the captured ones just if
each captured text meets its own label, as it does where names and values are equally many. -/
theorem pairs_apply (hr : r.Ascending) (h : r.apply l = some l') :
    ∃ taken : List Taken, (∀ t, t ∈ taken ↔ r.Takes l.name.toList t) ∧
      taken.Pairwise Taken.Before ∧
      l'.frontName = l.frontName ∧ l'.frontValue = l.frontValue ∧
      l'.pairs = l.pairs ++
        (l.unfilledNames ++ taken.map (·.label)).zip
          (Exposition.unnamedBack l ++ taken.map (·.text)) ∧
      (l'.pairs = l.pairs ++ taken.map Taken.pair ↔
        taken.map (·.label) <+: l.unfilledNames ++ taken.map (·.label) ∧
          taken.map (·.text) <+: Exposition.unnamedBack l ++ taken.map (·.text)) ∧
      (l.backNames.length = l.backValues.length →
        l'.pairs = l.pairs ++ taken.map Taken.pair ∧ Exposition.unnamedBack l' = []) := by
  obtain ⟨hfn, hfv, hn, hv⟩ := labels_apply h
  have hfront : l'.frontPair = l.frontPair := by
    rw [Labels.frontPair, Labels.frontPair, hfn, hfv]
  have hpairs : l'.pairs = l.pairs ++
      (l.unfilledNames ++ (r.taken l.name.toList).map (·.label)).zip
        (Exposition.unnamedBack l ++ (r.taken l.name.toList).map (·.text)) := by
    rw [Labels.pairs, Labels.pairs, hfront, hn, hv, Labels.zip_append_append, List.append_assoc]
    rfl
  have hzip : (r.taken l.name.toList).map Taken.pair =
      ((r.taken l.name.toList).map (·.label)).zip ((r.taken l.name.toList).map (·.text)) := by
    rw [List.zip_map']
    rfl
  have hiff : l'.pairs = l.pairs ++ (r.taken l.name.toList).map Taken.pair ↔
      (r.taken l.name.toList).map (·.label) <+:
          l.unfilledNames ++ (r.taken l.name.toList).map (·.label) ∧
        (r.taken l.name.toList).map (·.text) <+:
          Exposition.unnamedBack l ++ (r.taken l.name.toList).map (·.text) := by
    rw [hpairs, hzip, List.append_cancel_left_eq]
    apply Labels.zip_eq_zip_iff
    · rw [List.length_map, List.length_map]
    · simp only [Labels.unfilledNames, Exposition.unnamedBack, List.length_append, List.length_drop,
        List.length_map]
      omega
  refine ⟨r.taken l.name.toList, fun t => mem_taken, pairwise_taken hr, hfn, hfv, hpairs, hiff, ?_⟩
  intro hl
  constructor
  · have hu : l.unfilledNames = [] := List.drop_eq_nil_of_le (Nat.le_of_eq hl)
    have hb : Exposition.unnamedBack l = [] := List.drop_eq_nil_of_le (Nat.le_of_eq hl.symm)
    rw [hiff, hu, hb]
    exact ⟨List.prefix_rfl, List.prefix_rfl⟩
  · apply List.drop_eq_nil_of_le
    apply Nat.le_of_eq
    rw [hn, hv, List.length_append, List.length_append, List.length_map, List.length_map, hl]

attribute [local instance] Regex.Engine.estimating

/-- A rule that takes two labels from a name. -/
private def byCustomer : List RuleConfig :=
  [{ pattern := "requests\\.([a-z]+)\\.([a-z]+)", groups := [(1, "customer"), (2, "status")] }]

private def ofCustomers : Relabeler :=
  (ofConfig byCustomer).toOption.getD {}

private theorem ascending_ofCustomers : ofCustomers.Ascending := by
  unfold Ascending
  decide +kernel

theorem pairs_apply_named :
    let l : Labels :=
      { name := "requests.acme.failed", frontName := some "host", frontValue := some "h1",
        backNames := ["op"], backValues := ["read"] }
    (ofConfig byCustomer).toOption.isSome ∧ ofCustomers.Ascending ∧
      ∃ (l' : Labels) (taken : List Taken), ofCustomers.apply l = some l' ∧
        (∀ t, t ∈ taken ↔ ofCustomers.Takes l.name.toList t) ∧
        taken.map Taken.pair = [("customer", "acme"), ("status", "failed")] ∧
        l'.pairs = l.pairs ++ taken.map Taken.pair := by
  intro l
  have hl : ofCustomers.apply l = some { l with
      name := "requests", backNames := ["op", "customer", "status"],
      backValues := ["read", "acme", "failed"] } := by
    cbv
  obtain ⟨taken, ht, -, -, -, -, -, hp⟩ := pairs_apply ascending_ofCustomers hl
  obtain ⟨hp, -⟩ := hp rfl
  exact ⟨by decide +kernel, ascending_ofCustomers, _, taken, hl, ht,
    List.append_cancel_left hp.symm, hp⟩

/-- A name without a value, as in the parent metric of a bucket, takes up a captured text. -/
theorem not_pairs_apply_append :
    ¬ ∀ (r : Relabeler) (l l' : Labels) (taken : List Taken), r.Ascending → r.apply l = some l' →
      (∀ t, t ∈ taken ↔ r.Takes l.name.toList t) → taken.Pairwise Taken.Before →
      l'.pairs = l.pairs ++ taken.map Taken.pair := by
  intro h
  have hl : ofCustomers.apply { name := "requests.acme.failed", backNames := ["op"] } = some
      { name := "requests", backNames := ["op", "customer", "status"],
        backValues := ["acme", "failed"] } := by
    cbv
  have hs := h ofCustomers _ _ _ ascending_ofCustomers hl (fun t => mem_taken)
    (pairwise_taken ascending_ofCustomers)
  revert hs
  decide +kernel

end Relabeler

end Telemetry
