import Mathlib.Data.List.Nodup
import Telemetry.Proofs.Exposition.Pages
/-!
# Series of a registry

A sample is entered under the name of its family and the list of its labels, whatever their order.
Main statements: each name and each list stands once and an entry replaces the value of its list
alone; and each series stands once and repeats no key exactly if what is published is tidy, that is
if its keys stay apart when they are masked and one family never lists the same labels in two
orders.
-/
namespace Telemetry

namespace Exposition

namespace LabelSet

/-- No key stands twice. -/
def Distinct (labels : LabelSet) : Prop :=
  (labels.map (·.1)).Nodup

/-- The same labels as a set, in whatever order. -/
def Same (a b : LabelSet) : Prop :=
  ∀ l, l ∈ a ↔ l ∈ b

instance (labels : LabelSet) : Decidable labels.Distinct :=
  inferInstanceAs (Decidable (labels.map (·.1)).Nodup)

instance (a b : LabelSet) : Decidable (Same a b) :=
  decidable_of_iff ((∀ l ∈ a, l ∈ b) ∧ ∀ l ∈ b, l ∈ a)
    ⟨fun h l => ⟨h.1 l, h.2 l⟩, fun h => ⟨fun l => (h l).1, fun l => (h l).2⟩⟩

end LabelSet

namespace Registry

/-- No sample repeats a key, and no family holds two samples with the same labels. -/
structure Unique (r : Registry) : Prop where
  distinct : ∀ entry ∈ r.families, ∀ sample ∈ entry.2.samples, LabelSet.Distinct sample.1
  once : ∀ entry ∈ r.families, entry.2.samples.Pairwise fun a b => ¬ LabelSet.Same a.1 b.1

/-- Each family, and each list of labels in it, stands once. -/
structure Keyed (r : Registry) : Prop where
  names : (r.families.map (·.1)).Nodup
  lists : ∀ entry ∈ r.families, (entry.2.samples.map (·.1)).Nodup

/-- The value of the sample under a list of labels. -/
def value? (r : Registry) (name : String) (labels : LabelSet) : Option Float :=
  (Assoc.get? name r.families).bind fun family => Assoc.get? labels family.samples

theorem keyed_empty : Keyed {} :=
  ⟨.nil, fun _ h => by cases h⟩

/-- A family that a sample is entered into is there already, if it holds samples. -/
theorem mem_familyFor {r : Registry} {name : String} {kind : FamilyKind}
    (h : (r.familyFor name kind).samples ≠ []) : (name, r.familyFor name kind) ∈ r.families := by
  revert h
  unfold familyFor
  split
  · rename_i family hf
    split
    · exact fun _ => Assoc.mem_of_get? hf
    · exact fun h => absurd rfl h
  · exact fun h => absurd rfl h

theorem nodup_familyFor {r : Registry} (h : r.Keyed) (name : String) (kind : FamilyKind) :
    ((r.familyFor name kind).samples.map (·.1)).Nodup := by
  by_cases hs : (r.familyFor name kind).samples = []
  · simp [hs]
  · exact h.lists _ (mem_familyFor hs)

theorem Keyed.update {r : Registry} (h : r.Keyed) (name : String) (kind : FamilyKind)
    (labels : LabelSet) (value : Float) : (r.update name kind labels value).Keyed where
  names := Assoc.nodup_put h.names
  lists := by
    intro entry he
    rcases Assoc.mem_put he with rfl | he
    · exact Assoc.nodup_put (nodup_familyFor h name kind)
    · exact h.lists entry he

/-- An entry changes the value of its own list of labels and, if it changes the type of its family,
drops the other samples there. -/
theorem value?_update (r : Registry) (name : String) (kind : FamilyKind) (labels : LabelSet)
    (value : Float) (other : String) (others : LabelSet) :
    (r.update name kind labels value).value? other others =
      if name = other then
        if labels = others then some value
        else Assoc.get? others (r.familyFor name kind).samples
      else r.value? other others := by
  rw [update, value?, Assoc.get?_put]
  by_cases hn : name = other
  · rw [if_pos hn, if_pos hn, Option.bind_some, Assoc.get?_put]
  · rw [if_neg hn, if_neg hn, value?]

theorem Keyed.unique {r : Registry} (h : r.Keyed)
    (hd : ∀ entry ∈ r.families, ∀ sample ∈ entry.2.samples, LabelSet.Distinct sample.1)
    (hs : ∀ entry ∈ r.families, ∀ a ∈ entry.2.samples, ∀ b ∈ entry.2.samples,
      LabelSet.Same a.1 b.1 → a.1 = b.1) : r.Unique where
  distinct := hd
  once := by
    intro entry he
    refine (List.pairwise_map.1 (h.lists entry he)).imp_of_mem ?_
    intro a b ha hb hne hab
    exact hne (hs entry he a ha b hb hab)

end Registry

end Exposition

namespace PrometheusPublisher

open Exposition

def Action.snapshots : Action → List Snapshot
  | .publish batch => batch
  | .clear => []

def seriesOf (p : PrometheusPublisher) (s : Snapshot) : LabelSet :=
  labelPairs (p.labelsOf s)

/-- The keys of each snapshot stay apart, and no two snapshots of one family and type have the same
labels in two orders. -/
structure Tidy (p : PrometheusPublisher) (published : Snapshot → Prop) : Prop where
  distinct : ∀ s, published s → (p.seriesOf s).Distinct
  ordered : ∀ s t, published s → published t → p.familyOf s = p.familyOf t →
    FamilyKind.ofKind s.kind = FamilyKind.ofKind t.kind →
    LabelSet.Same (p.seriesOf s) (p.seriesOf t) → p.seriesOf s = p.seriesOf t

/-- All samples are those of published snapshots. -/
def Traced (p : PrometheusPublisher) (published : Snapshot → Prop) : Prop :=
  ∀ entry ∈ p.registry.families, ∀ sample ∈ entry.2.samples, ∃ s, published s ∧
    p.familyOf s = entry.1 ∧ FamilyKind.ofKind s.kind = entry.2.kind ∧ p.seriesOf s = sample.1

variable {p : PrometheusPublisher} {published : Snapshot → Prop}

theorem keyed_record (h : p.registry.Keyed) (s : Snapshot) : (p.record s).1.registry.Keyed :=
  h.update _ _ _ _

theorem Traced.record (h : p.Traced published) {s : Snapshot} (hs : published s) :
    (p.record s).1.Traced published := by
  intro entry he sample hm
  have hfamily := Registry.kind_familyFor p.registry (p.familyOf s) (FamilyKind.ofKind s.kind)
  rcases Assoc.mem_put he with rfl | he
  · rcases Assoc.mem_put hm with rfl | hm
    · exact ⟨s, hs, rfl, hfamily.symm, rfl⟩
    · exact h _ (Registry.mem_familyFor (List.ne_nil_of_mem hm)) sample hm
  · exact h entry he sample hm

theorem keyed_recordAll (h : p.registry.Keyed) (batch : List Snapshot) :
    (p.recordAll batch).1.registry.Keyed := by
  induction batch generalizing p with
  | nil => exact h
  | cons s ss ih => exact ih (keyed_record h s)

theorem Traced.recordAll (h : p.Traced published) {batch : List Snapshot}
    (hb : ∀ s ∈ batch, published s) : (p.recordAll batch).1.Traced published := by
  induction batch generalizing p with
  | nil => exact h
  | cons s ss ih =>
    exact ih (h.record (hb s List.mem_cons_self)) fun t ht => hb t (List.mem_cons_of_mem s ht)

theorem keyed_run (h : p.registry.Keyed) (actions : List Action) :
    (p.run actions).registry.Keyed := by
  induction actions generalizing p with
  | nil => exact h
  | cons a actions ih =>
    apply ih
    cases a with
    | publish batch => exact keyed_recordAll h batch
    | clear => exact Registry.keyed_empty

theorem Traced.run (h : p.Traced published) {actions : List Action}
    (ha : ∀ a ∈ actions, ∀ s ∈ a.snapshots, published s) : (p.run actions).Traced published := by
  induction actions generalizing p with
  | nil => exact h
  | cons a actions ih =>
    refine ih ?_ fun b hb => ha b (List.mem_cons_of_mem a hb)
    cases a with
    | publish batch => exact h.recordAll (ha _ List.mem_cons_self)
    | clear => exact fun _ he => by cases he

/-- Publishing and clearing change nothing but the registry. -/
theorem recordAll_eq (p : PrometheusPublisher) (batch : List Snapshot) :
    (p.recordAll batch).1 = { p with registry := (p.recordAll batch).1.registry } := by
  induction batch generalizing p with
  | nil => rfl
  | cons s ss ih => exact ih (p.record s).1

theorem run_eq (p : PrometheusPublisher) (actions : List Action) :
    p.run actions = { p with registry := (p.run actions).registry } := by
  induction actions generalizing p with
  | nil => rfl
  | cons a actions ih =>
    cases a with
    | publish batch =>
      have hb := recordAll_eq p batch
      have hc : (p.recordAll batch).1.config = p.config := by rw [hb]
      have hr : (p.recordAll batch).1.relabeler = p.relabeler := by rw [hb]
      exact (ih _).trans (by rw [mk.injEq]; exact ⟨hc, hr, rfl⟩)
    | clear => exact ih p.clear

theorem Tidy.run (h : p.Tidy published) (actions : List Action) :
    (p.run actions).Tidy published := by
  rw [run_eq]
  exact ⟨h.distinct, h.ordered⟩

theorem Tidy.unique (h : p.Tidy published) (ht : p.Traced published) (hk : p.registry.Keyed) :
    p.registry.Unique := by
  apply hk.unique
  · intro entry he sample hm
    obtain ⟨s, hs, -, -, hl⟩ := ht entry he sample hm
    exact hl ▸ h.distinct s hs
  · intro entry he a ha b hb hab
    obtain ⟨s, hs, hsf, hsk, hsl⟩ := ht entry he a ha
    obtain ⟨t, ht, htf, htk, htl⟩ := ht entry he b hb
    rw [← hsl, ← htl] at hab ⊢
    exact h.ordered s t hs ht (hsf.trans htf.symm) (hsk.trans htk.symm) hab

theorem value?_run_append (p : PrometheusPublisher) (actions : List Action) (s : Snapshot)
    (name : String) (labels : LabelSet) :
    (p.run (actions ++ [.publish [s]])).registry.value? name labels =
      if p.familyOf s = name then
        if p.seriesOf s = labels then some s.value
        else Assoc.get? labels
          ((p.run actions).registry.familyFor name (FamilyKind.ofKind s.kind)).samples
      else (p.run actions).registry.value? name labels := by
  have hf : (p.run actions).familyOf s = p.familyOf s := by rw [run_eq]; rfl
  have hl : (p.run actions).seriesOf s = p.seriesOf s := by rw [run_eq]; rfl
  have hr : p.run (actions ++ [.publish [s]]) = (p.run actions).act (.publish [s]) :=
    List.foldl_append
  rw [hr, ← hf, ← hl]
  refine (Registry.value?_update (p.run actions).registry _ _ _ _ name labels).trans ?_
  split
  · rename_i hn
    rw [hn]
    rfl
  · rfl

theorem families_publish_pair {s t : Snapshot} (hr : p.registry = {})
    (hf : p.familyOf s = p.familyOf t)
    (hk : FamilyKind.ofKind s.kind = FamilyKind.ofKind t.kind)
    (hl : p.seriesOf s ≠ p.seriesOf t) :
    (p.run [.publish [s, t]]).registry.families = [(p.familyOf t,
      { kind := FamilyKind.ofKind t.kind,
        samples := [(p.seriesOf s, s.value), (p.seriesOf t, t.value)] })] := by
  have hs : (p.record s).1.registry.families = [(p.familyOf t,
      { kind := FamilyKind.ofKind t.kind, samples := [(p.seriesOf s, s.value)] })] := by
    simp only [record, hr, hf, hk]
    rfl
  have ht : (p.run [.publish [s, t]]).registry =
      (p.record s).1.registry.update (p.familyOf t) (FamilyKind.ofKind t.kind) (p.seriesOf t)
        t.value := rfl
  have hfor : (p.record s).1.registry.familyFor (p.familyOf t) (FamilyKind.ofKind t.kind) =
      { kind := FamilyKind.ofKind t.kind, samples := [(p.seriesOf s, s.value)] } := by
    simp only [Registry.familyFor, hs, Assoc.get?, if_true]
  rw [ht, Registry.update, hfor, hs]
  simp only [Assoc.put, if_true, if_neg hl]

/-- Each family and each list of labels stands once on a page, and publishing replaces the value of
its own list. The series on all pages are unique exactly if what is published is tidy. -/
theorem series_unique_iff (config : PublisherConfig) (relabeler : Relabeler)
    (published : Snapshot → Prop) :
    let p : PrometheusPublisher := { config, relabeler }
    (∀ actions, (p.run actions).registry.Keyed) ∧
      (∀ actions s name labels,
        (p.run (actions ++ [.publish [s]])).registry.value? name labels =
          if p.familyOf s = name then
            if p.seriesOf s = labels then some s.value
            else Assoc.get? labels
              ((p.run actions).registry.familyFor name (FamilyKind.ofKind s.kind)).samples
          else (p.run actions).registry.value? name labels) ∧
      ((∀ actions, (∀ a ∈ actions, ∀ s ∈ a.snapshots, published s) →
        (p.run actions).registry.Unique) ↔ p.Tidy published) := by
  intro p
  have hk (actions : List Action) : (p.run actions).registry.Keyed :=
    keyed_run Registry.keyed_empty actions
  refine ⟨hk, value?_run_append p, ?_, ?_⟩
  · intro h
    constructor
    · intro s hs
      have hu := h [.publish [s]] (by simpa [Action.snapshots] using hs)
      exact hu.distinct (p.familyOf s, _) List.mem_cons_self (p.seriesOf s, s.value)
        List.mem_cons_self
    · intro s t hs ht hf hkind hsame
      by_contra hl
      have hu := h [.publish [s, t]] (by simpa [Action.snapshots] using ⟨hs, ht⟩)
      have hp := hu.once _ (families_publish_pair rfl hf hkind hl ▸ List.mem_cons_self)
      exact List.rel_of_pairwise_cons hp List.mem_cons_self hsame
  · intro h actions ha
    have ht : p.Traced published := fun _ he => by cases he
    exact (h.run actions).unique (ht.run ha) (hk actions)

private def count (names values : List String) : Snapshot :=
  { labels := { name := "requests", backNames := names, backValues := values }, kind := .count,
    value := 1, timestamp := 0, tags := {} }

private def ofOperations : List Snapshot :=
  [count ["op", "host"] ["read", "h1"], count ["op", "host"] ["write", "h1"], count ["op"] ["read"]]

theorem series_unique_of_operations :
    let p : PrometheusPublisher := { config := .named "page" .prometheus, relabeler := {} }
    p.Tidy (· ∈ ofOperations) ∧
      ∀ actions, (∀ a ∈ actions, ∀ s ∈ a.snapshots, s ∈ ofOperations) →
        (p.run actions).registry.Unique := by
  intro p
  have hd : ∀ s ∈ ofOperations, (p.seriesOf s).Distinct := by decide +kernel
  have ho : ∀ s ∈ ofOperations, ∀ t ∈ ofOperations,
      LabelSet.Same (p.seriesOf s) (p.seriesOf t) → p.seriesOf s = p.seriesOf t := by
    decide +kernel
  have ht : p.Tidy (· ∈ ofOperations) := ⟨hd, fun s t hs ht _ _ => ho s hs t ht⟩
  exact ⟨ht, (series_unique_iff _ {} _).2.2.2 ht⟩

/-- Two names of a label that are masked alike make a key stand twice, and labels in two orders make
a series stand twice. -/
theorem not_series_unique :
    let p : PrometheusPublisher := { config := .named "page" .prometheus, relabeler := {} }
    (¬ ∀ entry ∈ (p.run [.publish [count ["a.b", "a-b"] ["1", "1"]]]).registry.families,
      ∀ sample ∈ entry.2.samples, LabelSet.Distinct sample.1) ∧
    ¬ ∀ entry ∈ (p.run [.publish [count ["op", "host"] ["read", "h1"]],
        .publish [count ["host", "op"] ["h1", "read"]]]).registry.families,
      entry.2.samples.Pairwise fun a b => ¬ LabelSet.Same a.1 b.1 := by
  decide +kernel

end PrometheusPublisher

end Telemetry
