import Telemetry.Bucket
import Telemetry.Proofs.Firsts
import Telemetry.Proofs.Metric.History
/-!
# Identity of the metrics in a bucket

Keys are looked up in a bucket and the metrics found are used, in any order. Main statement: two
keys lead to one metric just if they denote the same labels; a metric that was found is found ever
after, with all that was done with it since; and a bucket holds what was looked up and nothing else.
-/
namespace Telemetry

namespace Bucket

/-- The labels of the metric for a key: the parent's with the values of the key put in, and without
a front name that has no value. -/
def Key.denotes (key : Key) (parent : Labels) : Labels :=
  (key.labels parent).normalize

/-- Something done with a bucket: a key is looked up, or the metric at a place is used. -/
inductive Action where
  | lookup (key : Key)
  | use (i : Nat) (action : Metric.Action)

namespace Action

def key? : Action → Option Key
  | lookup key => some key
  | use .. => none

def usedOn? (i : Nat) : Action → Option Metric.Action
  | lookup _ => none
  | use j action => if j = i then some action else none

/-- A key that denotes these labels is looked up. -/
def asks (parent labels : Labels) (a : Action) : Bool :=
  a.key?.any fun key => key.denotes parent == labels

end Action

def act (b : Bucket) : Action → Bucket
  | .lookup key => (b.get key).2
  | .use i action => b.modify i fun m => (m.act action).1

def run (b : Bucket) (actions : List Action) : Bucket :=
  actions.foldl act b

/-- The keys that are looked up, each with the place of the metric that is handed out. -/
def found : Bucket → List Action → List (Key × Nat)
  | _, [] => []
  | b, a :: actions =>
    (a.key?.map fun key => (key, (b.get key).1)).toList ++ found (b.act a) actions

/-- What was done with the metric at `i` since its labels were first asked for. -/
def historyOf (parent labels : Labels) (i : Nat) (actions : List Action) : List Metric.Action :=
  (actions.dropWhile fun a => !a.asks parent labels).filterMap (Action.usedOn? i)

section Steps

variable (b : Bucket) (actions : List Action) (a : Action)

theorem run_concat : b.run (actions ++ [a]) = (b.run actions).act a :=
  List.foldl_concat ..

theorem found_concat : b.found (actions ++ [a]) =
    b.found actions ++ (a.key?.map fun key => (key, ((b.run actions).get key).1)).toList := by
  induction actions generalizing b with
  | nil => simp [found, run]
  | cons a' actions ih =>
    rw [List.cons_append, found, ih, found, List.append_assoc]
    rfl

theorem map_fst_found : (b.found actions).map (·.1) = actions.filterMap Action.key? := by
  induction actions generalizing b with
  | nil => rfl
  | cons a actions ih =>
    rw [found, List.map_append, ih, List.filterMap_cons]
    cases a.key? <;> rfl

/-- The labels of what was found were asked for, and what was asked for was found. -/
theorem exists_asks_iff {parent labels : Labels} : (∃ a ∈ actions, a.asks parent labels = true) ↔
    ∃ f ∈ b.found actions, f.1.denotes parent = labels := by
  have hk : (∃ f ∈ b.found actions, f.1.denotes parent = labels) ↔
      ∃ key ∈ (b.found actions).map (·.1), key.denotes parent = labels := by
    simp
  rw [hk, map_fst_found]
  simp only [Action.asks, Option.any_eq_true, beq_iff_eq, List.mem_filterMap]
  constructor
  · rintro ⟨a, ha, key, hak, hl⟩
    exact ⟨key, ⟨a, ha, hak⟩, hl⟩
  · rintro ⟨key, ⟨a, ha, hak⟩, hl⟩
    exact ⟨a, ha, key, hak, hl⟩

end Steps

section History

variable {parent labels : Labels} {actions : List Action} {i : Nat}

/-- Looking up is no use of a metric. -/
theorem historyOf_lookup (key : Key) :
    historyOf parent labels i (actions ++ [.lookup key]) = historyOf parent labels i actions := by
  rw [historyOf, List.dropWhile_append, historyOf]
  split
  · rename_i h
    rw [List.isEmpty_iff.1 h, List.dropWhile_cons]
    split <;> rfl
  · simp [Action.usedOn?]

theorem historyOf_use (h : ∃ a ∈ actions, a.asks parent labels = true) (j : Nat)
    (action : Metric.Action) : historyOf parent labels i (actions ++ [.use j action]) =
      historyOf parent labels i actions ++ if j = i then [action] else [] := by
  rw [historyOf, List.dropWhile_append, if_neg, List.filterMap_append, historyOf]
  · by_cases hj : j = i <;> simp [Action.usedOn?, hj]
  · obtain ⟨a, ha, hl⟩ := h
    intro hn
    have hd := List.isEmpty_iff.1 hn
    rw [List.dropWhile_eq_nil_iff] at hd
    simpa [hl] using hd a ha

theorem historyOf_eq_nil (h : ¬ ∃ a ∈ actions, a.asks parent labels = true) :
    historyOf parent labels i actions = [] := by
  have hd : (actions.dropWhile fun a => !a.asks parent labels) = [] := by
    rw [List.dropWhile_eq_nil_iff]
    intro a ha
    simpa using fun hl => h ⟨a, ha, hl⟩
  rw [historyOf, hd]
  rfl

end History

/-- A look-up finds the metric with the labels that are denoted, or makes it at the end. -/
theorem get_cases (b : Bucket) (key : Key) :
    (∃ (i : Nat) (m : Metric), b.metrics[i]? = some m ∧ m.labels = key.denotes b.parent ∧
        b.get key = (i, b)) ∨
      (∀ (i : Nat) (m : Metric), b.metrics[i]? = some m → m.labels ≠ key.denotes b.parent) ∧
        b.get key = (b.size,
          { b with metrics := b.metrics.push (.new (key.denotes b.parent) b.kind) }) := by
  rw [get, lookup, find?]
  split
  · rename_i i hi
    obtain ⟨hlt, hl, -⟩ := Array.findIdx?_eq_some_iff_getElem.1 hi
    exact .inl ⟨i, b.metrics[i], Array.getElem?_eq_getElem hlt, beq_iff_eq.1 hl, rfl⟩
  · rename_i hi
    refine .inr ⟨?_, rfl⟩
    intro i m hm hl
    have hn := Array.findIdx?_eq_none_iff.1 hi m (Array.mem_of_getElem? hm)
    exact absurd (beq_iff_eq.2 hl) (Bool.eq_false_iff.1 hn)

/-- What a bucket holds after some actions, if it held nothing before. -/
structure Kept (parent : Labels) (kind : Kind) (actions : List Action) (found : List (Key × Nat))
    (b : Bucket) : Prop where
  parent_eq : b.parent = parent
  kind_eq : b.kind = kind
  metric : ∀ f ∈ found, b.metrics[f.2]? = some ((Metric.new (f.1.denotes parent) kind).run
    (historyOf parent (f.1.denotes parent) f.2 actions))
  places : (found.map (·.2)).eraseDups = List.range b.size
  apart : ∀ {i j : Nat} {m n : Metric}, b.metrics[i]? = some m → b.metrics[j]? = some n →
    m.labels = n.labels → i = j

namespace Kept

variable {parent : Labels} {kind : Kind} {actions : List Action} {found : List (Key × Nat)}
  {b : Bucket}

theorem empty : Kept parent kind [] [] { parent, kind } where
  parent_eq := rfl
  kind_eq := rfl
  metric := by simp
  places := rfl
  apart := by simp

section Step

variable (h : Kept parent kind actions found b)
include h

theorem exists_found {i : Nat} {m : Metric} (hm : b.metrics[i]? = some m) :
    ∃ f ∈ found, f.2 = i := by
  have hi : i ∈ (found.map (·.2)).eraseDups := by
    rw [h.places]
    exact List.mem_range.2 (Array.getElem?_eq_some_iff.1 hm).1
  simpa using List.mem_eraseDups.1 hi

theorem use (hf : ∀ f ∈ found, ∃ a ∈ actions, a.asks parent (f.1.denotes parent) = true) (i : Nat)
    (action : Metric.Action) :
    Kept parent kind (actions ++ [.use i action]) found (b.act (.use i action)) where
  parent_eq := h.parent_eq
  kind_eq := h.kind_eq
  metric f hm := by
    rw [historyOf_use (hf f hm), act, modify, Array.getElem?_modify, h.metric f hm]
    by_cases hi : i = f.2
    · rw [if_pos hi, if_pos hi, Metric.run_concat]
      rfl
    · rw [if_neg hi, if_neg hi, List.append_nil]
  places := by
    rw [h.places, act, modify, size, size, Array.size_modify]
  apart := by
    -- a use leaves the labels alone
    have hl {j : Nat} {m : Metric} (hm : (b.act (.use i action)).metrics[j]? = some m) :
        ∃ m', b.metrics[j]? = some m' ∧ m'.labels = m.labels := by
      rw [act, modify, Array.getElem?_modify] at hm
      split at hm
      · obtain ⟨m', hm', rfl⟩ := Option.map_eq_some_iff.1 hm
        exact ⟨m', hm', by simp⟩
      · exact ⟨m, hm, rfl⟩
    intro j k m n hm hn he
    obtain ⟨m', hm', hml⟩ := hl hm
    obtain ⟨n', hn', hnl⟩ := hl hn
    exact h.apart hm' hn' (hml.trans (he.trans hnl.symm))

/-- A look-up of labels that are there hands out the metric that has them. -/
theorem again {i : Nat} {m : Metric} {key : Key} (hm : b.metrics[i]? = some m)
    (hl : m.labels = key.denotes parent) :
    Kept parent kind (actions ++ [.lookup key]) (found ++ [(key, i)]) b where
  parent_eq := h.parent_eq
  kind_eq := h.kind_eq
  metric f hf := by
    rw [historyOf_lookup]
    rcases List.mem_append.1 hf with hf | hf
    · exact h.metric f hf
    · -- the metric at `i` was found before, under labels that it still has
      obtain ⟨g, hg, rfl⟩ := h.exists_found hm
      have hgm := h.metric g hg
      have hgl : g.1.denotes parent = key.denotes parent := by
        rw [hm] at hgm
        rw [← hl, Option.some.inj hgm, Metric.labels_run]
        rfl
      rw [List.mem_singleton.1 hf]
      exact hgl ▸ hgm
  places := by
    obtain ⟨g, hg, rfl⟩ := h.exists_found hm
    rw [List.map_append, List.map_singleton, eraseDups_concat, if_pos (List.mem_map_of_mem hg)]
    exact h.places
  apart := h.apart

/-- A look-up of labels that are not there makes a metric with them at the end. -/
theorem fresh {key : Key} (hn : ∀ (i : Nat) (m : Metric), b.metrics[i]? = some m →
      m.labels ≠ key.denotes parent)
    (hf : ∀ labels, (∃ a ∈ actions, a.asks parent labels = true) →
      ∃ f ∈ found, f.1.denotes parent = labels) :
    Kept parent kind (actions ++ [.lookup key]) (found ++ [(key, b.size)])
      { b with metrics := b.metrics.push (.new (key.denotes parent) kind) } where
  parent_eq := h.parent_eq
  kind_eq := h.kind_eq
  metric f hm := by
    rw [historyOf_lookup, Array.getElem?_push]
    rcases List.mem_append.1 hm with hm | hm
    · have hlt := (Array.getElem?_eq_some_iff.1 (h.metric f hm)).1
      rw [if_neg (Nat.ne_of_lt hlt)]
      exact h.metric f hm
    · -- the labels were not asked for before, or there would be a metric that has them
      rw [List.mem_singleton.1 hm, size, if_pos rfl, historyOf_eq_nil]
      · rfl
      · intro ha
        obtain ⟨g, hg, hgl⟩ := hf _ ha
        refine hn _ _ (h.metric g hg) ?_
        rw [Metric.labels_run]
        exact hgl
  places := by
    have hb : b.size ∉ found.map (·.2) := by
      rw [← List.mem_eraseDups, h.places]
      exact List.not_mem_range_self
    rw [List.map_append, List.map_singleton, eraseDups_concat, if_neg hb, h.places, size, size,
      Array.size_push, List.range_succ]
  apart := by
    intro i j m n hm hn' he
    rw [Array.getElem?_push] at hm hn'
    split at hm <;> split at hn'
    · rename_i hi hj
      exact hi.trans hj.symm
    · obtain rfl := Option.some.inj hm
      exact absurd he.symm (hn j n hn')
    · obtain rfl := Option.some.inj hn'
      exact absurd he (hn i m hm)
    · exact h.apart hm hn' he

theorem lookup (hf : ∀ labels, (∃ a ∈ actions, a.asks parent labels = true) →
      ∃ f ∈ found, f.1.denotes parent = labels) (key : Key) :
    Kept parent kind (actions ++ [.lookup key]) (found ++ [(key, (b.get key).1)])
      (b.act (.lookup key)) := by
  have hp := h.parent_eq
  rw [act]
  rcases b.get_cases key with ⟨i, m, hm, hl, hg⟩ | ⟨hn, hg⟩
  · rw [hg]
    exact h.again hm (hp ▸ hl)
  · rw [hp] at hn hg
    rw [hg]
    subst hp
    obtain rfl := h.kind_eq
    exact h.fresh hn hf

end Step

/-- What a bucket holds after a run that it began empty. -/
theorem of_run (parent : Labels) (kind : Kind) (actions : List Action) :
    Kept parent kind actions (Bucket.found { parent, kind } actions)
      (run { parent, kind } actions) := by
  induction actions using List.reverseRecOn with
  | nil => exact empty
  | append_singleton actions a ih =>
    rw [found_concat, run_concat]
    cases a with
    | lookup key => exact ih.lookup (fun _ => (exists_asks_iff ..).1) key
    | use i action =>
      rw [Action.key?, Option.map_none, Option.toList_none, List.append_nil]
      exact ih.use (fun f hf => (exists_asks_iff ..).2 ⟨f, hf, rfl⟩) i action

end Kept

/-- Two look-ups hand out one metric just if their keys denote the same labels. What was handed out
stays where it is and has these labels, the kind of the bucket and all that was done with it; and
the bucket lists what was handed out, each metric once, and no other. -/
theorem lookups_identify (parent : Labels) (kind : Kind) (actions : List Action) :
    let found := Bucket.found { parent, kind } actions
    let b := run { parent, kind } actions
    (∀ f ∈ found, ∀ g ∈ found, f.2 = g.2 ↔ f.1.denotes parent = g.1.denotes parent) ∧
      (∀ f ∈ found, ∃ m, b.metrics[f.2]? = some m ∧
        m.labels = f.1.denotes parent ∧ m.kind = kind ∧
        m = (Metric.new (f.1.denotes parent) kind).run
          (historyOf parent (f.1.denotes parent) f.2 actions)) ∧
      (found.map (·.2)).eraseDups = List.range b.size ∧
      b.size = (found.map (·.2)).eraseDups.length := by
  intro found b
  have h : Kept parent kind actions found b := .of_run parent kind actions
  refine ⟨?_, ?_, h.places, ?_⟩
  · intro f hf g hg
    have hfm := h.metric f hf
    have hgm := h.metric g hg
    constructor
    · intro he
      rw [he, hgm] at hfm
      have hl := congrArg Metric.labels (Option.some.inj hfm)
      rw [Metric.labels_run, Metric.labels_run] at hl
      exact hl.symm
    · intro he
      refine h.apart hfm hgm ?_
      rw [Metric.labels_run, Metric.labels_run]
      exact he
  · intro f hf
    exact ⟨_, h.metric f hf, Metric.labels_run .., Metric.kind_run .., rfl⟩
  · rw [h.places, List.length_range]

/-- An empty list of values leads to the metric of the bucket itself, and what was tracked there. -/
theorem lookups_identify_own_metric :
    let parent := (withLabelNames "requests" .count "customer" ["status"]).parent
    let actions := [.lookup .parent, .use 0 (.track 2 5), .lookup (.suffix "ok"),
      .lookup (.both "acme" []), .lookup (.front "acme"), .lookup (.suffixes [])]
    let found := Bucket.found { parent, kind := .count } actions
    found = [(.parent, 0), (.suffix "ok", 1), (.both "acme" [], 2), (.front "acme", 2),
        (.suffixes [], 0)] ∧
      Key.parent.denotes parent = (Key.suffixes []).denotes parent ∧
      ∃ m, (run { parent, kind := .count } actions).metrics[0]? = some m ∧
        m = (Metric.new { name := "requests", backNames := ["status"] } .count).run [.track 2 5] := by
  intro parent actions found
  have hfound : found = [(.parent, 0), (.suffix "ok", 1), (.both "acme" [], 2), (.front "acme", 2),
      (.suffixes [], 0)] := by
    decide +kernel
  have hparent : (.parent, 0) ∈ found := by simp [hfound]
  have hempty : (.suffixes [], 0) ∈ found := by simp [hfound]
  obtain ⟨hsame, hmetric, -⟩ := lookups_identify parent .count actions
  obtain ⟨m, hm, -, -, hrun⟩ := hmetric _ hempty
  exact ⟨hfound, (hsame _ hparent _ hempty).1 rfl, m, hm, hrun⟩

end Bucket

end Telemetry
