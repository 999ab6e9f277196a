import Telemetry.CounterDiff
/-!
# Differences of counters in a row of snapshots

What a differ makes of snapshots, said without its memory: every count is taken relative to the
latest count before it under the same labels. Main statement: applied to snapshots in portions, a
differ gives the differences of all of them.
-/
namespace Telemetry

namespace Snapshot

/-- The snapshot is a count under these labels. -/
abbrev Counts (labels : Labels) (s : Snapshot) : Prop :=
  s.kind.isCounter ∧ s.labels = labels

/-- The value of the latest count under some labels, zero if there is none. -/
def lastCount (earlier : List Snapshot) (labels : Labels) : Float :=
  ((earlier.reverse.find? fun s => s.Counts labels).map (·.value)).getD 0

/-- A count as its difference to the latest one among earlier snapshots under its labels. -/
def since (s : Snapshot) (earlier : List Snapshot) : Snapshot :=
  if s.kind.isCounter then s.withValue (s.value - lastCount earlier s.labels) else s

/-- The snapshots with all counts as differences, where others came before. -/
def differencesAfter (earlier ss : List Snapshot) : List Snapshot :=
  ss.mapIdx fun i s => s.since (earlier ++ ss.take i)

/-- The snapshots with all counts as differences to the ones before them. -/
def differences (ss : List Snapshot) : List Snapshot :=
  ss.mapIdx fun i s => s.since (ss.take i)

theorem lastCount_append_singleton (earlier : List Snapshot) (s : Snapshot) (labels : Labels) :
    lastCount (earlier ++ [s]) labels =
      if s.Counts labels then s.value else lastCount earlier labels := by
  rw [lastCount, List.reverse_append, List.reverse_singleton, List.singleton_append,
    List.find?_cons]
  by_cases h : s.Counts labels
  · simp [h]
  · rw [if_neg h, decide_eq_false h]
    rfl

theorem differences_eq (ss : List Snapshot) : differences ss = differencesAfter [] ss := rfl

@[simp] theorem differencesAfter_nil (earlier : List Snapshot) :
    differencesAfter earlier [] = [] := rfl

theorem differencesAfter_cons (earlier : List Snapshot) (s : Snapshot) (ss : List Snapshot) :
    differencesAfter earlier (s :: ss) = s.since earlier :: differencesAfter (earlier ++ [s]) ss := by
  simp [differencesAfter, List.mapIdx_cons]

theorem differencesAfter_append (earlier ss ts : List Snapshot) :
    differencesAfter earlier (ss ++ ts) =
      differencesAfter earlier ss ++ differencesAfter (earlier ++ ss) ts := by
  induction ss generalizing earlier with
  | nil => simp
  | cons s ss ih => simp [differencesAfter_cons, ih]

@[simp] theorem length_differencesAfter (earlier ss : List Snapshot) :
    (differencesAfter earlier ss).length = ss.length := by
  rw [differencesAfter, List.length_mapIdx]

/-- The values of the counts under some labels. -/
def counts (labels : Labels) (ss : List Snapshot) : List Float :=
  (ss.filter (·.Counts labels)).map (·.value)

/-- Every value relative to the one before it, the first to `last`. -/
def changes (last : Float) : List Float → List Float
  | [] => []
  | x :: xs => (x - last) :: changes x xs

theorem counts_append (labels : Labels) (ss ts : List Snapshot) :
    counts labels (ss ++ ts) = counts labels ss ++ counts labels ts := by
  rw [counts, List.filter_append, List.map_append]
  rfl

theorem counts_cons (labels : Labels) (s : Snapshot) (ss : List Snapshot) :
    counts labels (s :: ss) = if s.Counts labels then s.value :: counts labels ss
      else counts labels ss := by
  rw [counts, List.filter_cons]
  by_cases h : s.Counts labels
  · rw [if_pos (decide_eq_true h), if_pos h]
    rfl
  · rw [if_neg (by simpa using h), if_neg h]
    rfl

theorem counts_since (labels : Labels) (s : Snapshot) (earlier : List Snapshot) :
    (s.since earlier).Counts labels ↔ s.Counts labels := by
  rw [since]
  split <;> rfl

/-- The counts under some labels do not see what else is among the snapshots. -/
theorem counts_differencesAfter (labels : Labels) (earlier ss : List Snapshot) :
    counts labels (differencesAfter earlier ss) =
      changes (lastCount earlier labels) (counts labels ss) := by
  induction ss generalizing earlier with
  | nil => rfl
  | cons s ss ih =>
    rw [differencesAfter_cons, counts_cons, counts_cons, ih, lastCount_append_singleton]
    by_cases h : s.Counts labels
    · rw [if_pos ((counts_since labels s earlier).2 h), if_pos h, if_pos h, changes, since,
        if_pos h.1, h.2]
      rfl
    · rw [if_neg (fun hs => h ((counts_since labels s earlier).1 hs)), if_neg h, if_neg h]

end Snapshot

namespace CounterDiff

open Snapshot

/-- The differ knows the latest count under all labels among the snapshots it has seen. -/
def Remembers (d : CounterDiff) (seen : List Snapshot) : Prop :=
  ∀ labels, d.last labels = lastCount seen labels

theorem remembers_nil : ({} : CounterDiff).Remembers [] := fun _ => rfl

variable {d : CounterDiff} {seen : List Snapshot}

theorem Remembers.apply (h : d.Remembers seen) (s : Snapshot) :
    (d.apply s).1 = s.since seen ∧ (d.apply s).2.Remembers (seen ++ [s]) := by
  by_cases hk : s.kind.isCounter
  · constructor
    · simp only [CounterDiff.apply, since, hk, if_true, h s.labels]
    · intro labels
      rw [last_apply d s labels hk, lastCount_append_singleton, h labels]
      simp only [Counts, hk, true_and]
  · constructor
    · simp only [CounterDiff.apply, since, hk, Bool.false_eq_true, if_false]
    · intro labels
      simp only [CounterDiff.apply, hk, lastCount_append_singleton, Counts, Bool.false_eq_true,
        if_false, false_and]
      exact h labels

theorem Remembers.applyAll (h : d.Remembers seen) (ss : List Snapshot) :
    (d.applyAll ss).1 = differencesAfter seen ss ∧ (d.applyAll ss).2.Remembers (seen ++ ss) := by
  induction ss generalizing d seen with
  | nil => exact ⟨rfl, by rwa [List.append_nil]⟩
  | cons s ss ih =>
    obtain ⟨hs, hd⟩ := h.apply s
    obtain ⟨hss, hr⟩ := ih hd
    refine ⟨?_, ?_⟩
    · rw [differencesAfter_cons, ← hs, ← hss]
      rfl
    · rwa [List.append_assoc] at hr

end CounterDiff

end Telemetry
