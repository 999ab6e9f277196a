import Mathlib.Logic.Function.Iterate
import Telemetry.Proofs.Exposition.History
import Telemetry.Proofs.Exposition.Series
/-!
# Publishing a batch again

A batch that is entered into a keyed list a second time finds its keys where it left them, and so
leaves the list as it is if it leaves what each key holds as it is. This is used twice: for the
samples of a family and for the families of a registry. Main statement: publishing a batch any
number of times in a row is publishing it once.
-/
namespace Telemetry

namespace Assoc

variable {α β γ : Type} [DecidableEq α]

theorem get?_eq_none_of_not_mem {k : α} {entries : List (α × γ)} (h : k ∉ entries.map (·.1)) :
    get? k entries = none := by
  cases hg : get? k entries with
  | none => rfl
  | some value => exact absurd (List.mem_map_of_mem (mem_of_get? hg)) h

/-- Lists in which each key stands once are equal if their keys and what is found under these are. -/
theorem ext_get? {xs ys : List (α × γ)} (hk : xs.map (·.1) = ys.map (·.1))
    (hn : (xs.map (·.1)).Nodup) (hg : ∀ k, get? k xs = get? k ys) : xs = ys := by
  induction xs generalizing ys with
  | nil => exact (List.map_eq_nil_iff.1 hk.symm).symm
  | cons x xs ih =>
    cases ys with
    | nil => cases hk
    | cons y ys =>
      rw [List.map_cons, List.map_cons, List.cons.injEq] at hk
      obtain ⟨hkey, hrest⟩ := hk
      rw [List.map_cons, List.nodup_cons] at hn
      have hx : x = y := by
        have h := hg x.1
        rw [get?, get?, if_pos rfl, if_pos hkey.symm] at h
        exact Prod.ext hkey (Option.some.inj h)
      rw [hx, ih hrest hn.2]
      intro k
      by_cases hxk : x.1 = k
      · have hxs : k ∉ xs.map (·.1) := hxk ▸ hn.1
        rw [get?_eq_none_of_not_mem hxs, get?_eq_none_of_not_mem (hrest ▸ hxs)]
      · have h := hg k
        rwa [get?, get?, if_neg hxk, if_neg (hkey ▸ hxk)] at h

section Enter

variable (key : β → α) (enter : Option γ → β → γ)

/-- What a key holds after entries under it. -/
def held (us : List β) (value? : Option γ) : Option γ :=
  us.foldl (fun value? u => some (enter value? u)) value?

/-- The list after entries, each of which may look at what its key holds. -/
def enterAll (us : List β) (entries : List (α × γ)) : List (α × γ) :=
  us.foldl (fun entries u => put (key u) (enter (get? (key u) entries) u) entries) entries

variable (us : List β) (entries : List (α × γ))

theorem get?_enterAll (k : α) : get? k (enterAll key enter us entries) =
    held enter (us.filter (key · = k)) (get? k entries) := by
  induction us generalizing entries with
  | nil => rfl
  | cons u us ih =>
    rw [enterAll, List.foldl_cons, ← enterAll, ih, get?_put, List.filter_cons]
    by_cases hk : key u = k <;> simp [hk, held]

theorem nodup_enterAll (h : (entries.map (·.1)).Nodup) :
    ((enterAll key enter us entries).map (·.1)).Nodup := by
  induction us generalizing entries with
  | nil => exact h
  | cons u us ih => exact ih _ (nodup_put h)

/-- No key is lost. -/
theorem mem_enterAll_of_mem {k : α} (h : k ∈ entries.map (·.1)) :
    k ∈ (enterAll key enter us entries).map (·.1) := by
  induction us generalizing entries with
  | nil => exact h
  | cons u us ih =>
    apply ih
    rw [map_fst_put]
    split
    · exact h
    · exact List.mem_append_left _ h

theorem mem_enterAll {u : β} (h : u ∈ us) : key u ∈ (enterAll key enter us entries).map (·.1) := by
  induction us generalizing entries with
  | nil => cases h
  | cons first us ih =>
    rcases List.mem_cons.1 h with rfl | h
    · refine mem_enterAll_of_mem key enter us
        (put (key u) (enter (get? (key u) entries) u) entries) ?_
      rw [map_fst_put]
      split
      · assumption
      · exact List.mem_append_right _ (List.mem_singleton_self _)
    · exact ih _ h

/-- Entries under keys that are there keep the keys and their order. -/
theorem map_fst_enterAll (h : ∀ u ∈ us, key u ∈ entries.map (·.1)) :
    (enterAll key enter us entries).map (·.1) = entries.map (·.1) := by
  induction us generalizing entries with
  | nil => rfl
  | cons u us ih =>
    have hu : (put (key u) (enter (get? (key u) entries) u) entries).map (·.1) =
        entries.map (·.1) := by
      rw [map_fst_put, if_pos (h u List.mem_cons_self)]
    refine (ih _ ?_).trans hu
    intro v hv
    rw [hu]
    exact h v (List.mem_cons_of_mem u hv)

variable {us entries}

/-- Entering again changes nothing if it does not change what single keys hold. -/
theorem enterAll_enterAll (hn : (entries.map (·.1)).Nodup)
    (h : ∀ k, let vs := us.filter (key · = k)
      held enter vs (held enter vs (get? k entries)) = held enter vs (get? k entries)) :
    enterAll key enter us (enterAll key enter us entries) = enterAll key enter us entries := by
  have hkeys := map_fst_enterAll key enter us (enterAll key enter us entries)
    fun u hu => mem_enterAll key enter us entries hu
  apply ext_get? hkeys
  · rw [hkeys]
    exact nodup_enterAll key enter us entries hn
  · intro k
    rw [get?_enterAll, get?_enterAll]
    exact h k

end Enter

end Assoc

namespace Exposition

open Assoc

/-- The samples that stay when a sample of a kind comes. -/
def samplesFor (kind : FamilyKind) : Option Family → List (LabelSet × Float)
  | some family => if family.kind = kind then family.samples else []
  | none => []

/-- A family, or none, after an update. -/
def Family.enter (family? : Option Family) (u : Update) : Family where
  kind := u.kind
  samples := put u.labels u.value (samplesFor u.kind family?)

def setAll (us : List Update) (samples : List (LabelSet × Float)) : List (LabelSet × Float) :=
  enterAll Update.labels (fun _ u => u.value) us samples

theorem setAll_setAll {us : List Update} {samples : List (LabelSet × Float)}
    (h : (samples.map (·.1)).Nodup) : setAll us (setAll us samples) = setAll us samples := by
  apply enterAll_enterAll _ _ h
  intro labels vs
  -- what is found is the last value, if there is one
  rcases List.eq_nil_or_concat vs with hv | ⟨front, u, hv⟩
  · rw [hv]
    rfl
  · rw [hv, List.concat_eq_append, held, held, List.foldl_concat, List.foldl_concat]

section Held

variable (us : List Update) (family? : Option Family)

/-- The samples after some updates are those of the last run of updates of the kind, beside what was
there if the kind never changed. -/
theorem samplesFor_held (kind : FamilyKind) : samplesFor kind (held Family.enter us family?) =
    setAll (recent kind us)
      (if ∀ u ∈ us, u.kind = kind then samplesFor kind family? else []) := by
  induction us using List.reverseRecOn with
  | nil => simp [held, recent, setAll, enterAll]
  | append_singleton us u ih =>
    rw [held, List.foldl_concat, ← held]
    by_cases hu : u.kind = kind
    · subst hu
      have hall : (∀ v ∈ us ++ [u], v.kind = u.kind) ↔ ∀ v ∈ us, v.kind = u.kind := by
        simp [or_imp, forall_and]
      rw [samplesFor, Family.enter, if_pos rfl, ih, recent_concat, setAll, setAll, enterAll,
        enterAll, List.foldl_concat]
      simp only [hall]
    · have hr : recent kind (us ++ [u]) = [] := recent_eq_nil (by simp) hu
      rw [samplesFor, Family.enter, if_neg hu, hr, if_neg]
      · rfl
      · intro h
        exact hu (h u (by simp))

/-- Updates of a family that come again change nothing. -/
theorem held_held (h : ∀ family ∈ family?, (family.samples.map (·.1)).Nodup) :
    held Family.enter us (held Family.enter us family?) = held Family.enter us family? := by
  rcases List.eq_nil_or_concat us with rfl | ⟨front, u, rfl⟩
  · rfl
  rw [List.concat_eq_append]
  have last (family? : Option Family) : held Family.enter (front ++ [u]) family? =
      some ⟨u.kind, samplesFor u.kind (held Family.enter (front ++ [u]) family?)⟩ := by
    rw [held, List.foldl_concat, samplesFor, Family.enter, if_pos rfl]
  have hn : ((samplesFor u.kind family?).map (·.1)).Nodup := by
    unfold samplesFor
    split
    · split
      · exact h _ rfl
      · exact .nil
    · exact .nil
  rw [last, last family?, samplesFor_held, samplesFor_held]
  -- the kind changes on the way, and nothing is left of the first time, or it never does
  by_cases hall : ∀ v ∈ front ++ [u], v.kind = u.kind
  · rw [if_pos hall, if_pos hall, samplesFor, if_pos rfl, setAll_setAll hn]
  · rw [if_neg hall, if_neg hall]

end Held

namespace Registry

/-- The registry after updates. -/
def updateAll (r : Registry) (us : List Update) : Registry :=
  us.foldl (fun r u => r.update u.name u.kind u.labels u.value) r

theorem update_eq (r : Registry) (u : Update) : r.update u.name u.kind u.labels u.value =
    ⟨put u.name (Family.enter (get? u.name r.families) u) r.families⟩ := by
  rw [update, familyFor]
  cases get? u.name r.families with
  | none => rfl
  | some family =>
    by_cases hk : family.kind = u.kind <;> simp [Family.enter, samplesFor, hk]

theorem updateAll_eq (r : Registry) (us : List Update) :
    r.updateAll us = ⟨enterAll Update.name Family.enter us r.families⟩ := by
  induction us generalizing r with
  | nil => rfl
  | cons u us ih =>
    rw [updateAll, List.foldl_cons, ← updateAll, ih, update_eq]
    rfl

theorem updateAll_updateAll {r : Registry} (h : r.Keyed) (us : List Update) :
    (r.updateAll us).updateAll us = r.updateAll us := by
  rw [updateAll_eq, updateAll_eq, mk.injEq]
  apply enterAll_enterAll _ _ h.names
  intro name vs
  apply held_held
  intro family hf
  exact h.lists _ (mem_of_get? hf)

end Registry

end Exposition

namespace PrometheusPublisher

open Exposition

/-- What a snapshot enters into the registry. -/
def updateOf (p : PrometheusPublisher) (s : Snapshot) : Update where
  name := p.familyOf s
  kind := .ofKind s.kind
  labels := p.seriesOf s
  value := s.value

theorem publish_eq (p : PrometheusPublisher) (batch : List Snapshot) :
    (p.publish batch).1 = { p with registry := p.registry.updateAll (batch.map p.updateOf) } := by
  change (p.recordAll batch).1 = _
  induction batch generalizing p with
  | nil => rfl
  | cons s ss ih => exact ih (p.record s).1

/-- Publishing a batch again, however often, leaves the publisher, its registry with all orders in
it and its page as publishing the batch once does. -/
theorem publish_again (config : PublisherConfig) (relabeler : Relabeler) (actions : List Action)
    (batch : List Snapshot) :
    let p := run { config, relabeler } actions
    let once := (p.publish batch).1
    let twice := (once.publish batch).1
    twice = once ∧ twice.registry.families = once.registry.families ∧
      twice.registry.render = once.registry.render ∧
      ∀ n, (fun q => (publish q batch).1)^[n + 1] p = once := by
  intro p once twice
  have hk : p.registry.Keyed := keyed_run Registry.keyed_empty actions
  have h : twice = once := by
    unfold twice once
    rw [publish_eq, publish_eq, mk.injEq]
    exact ⟨rfl, rfl, Registry.updateAll_updateAll hk (batch.map p.updateOf)⟩
  refine ⟨h, by rw [h], by rw [h], ?_⟩
  intro n
  induction n with
  | zero => rfl
  | succ n ih =>
    rw [Function.iterate_succ_apply', ih]
    exact h

end PrometheusPublisher

end Telemetry
