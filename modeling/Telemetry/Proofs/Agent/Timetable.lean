import Mathlib.Data.List.Forall2
import Mathlib.Data.List.TakeWhile
import Telemetry.Agent.Schedule
/-!
# Timetables

The timetable of a schedule says when its cycles would take place on a clock that can be read for
ever; a clock that comes to its end cuts it short. Main statement: cycles do not overlap and are due
at least one period apart, and after one that takes too long a single one is due at once.
-/
namespace Telemetry

namespace Instant

/-- The whole seconds of a reading can be kept. -/
def Fits (t : Instant) : Prop :=
  t / 1000000000 ≤ maxSeconds

instance (t : Instant) : Decidable t.Fits :=
  inferInstanceAs (Decidable (_ ≤ _))

theorem add?_of_fits {t : Instant} {d : Duration} (h : Fits (t + d)) : add? t d = some (t + d) :=
  if_pos h

theorem add?_of_not_fits {t : Instant} {d : Duration} (h : ¬ Fits (t + d)) : add? t d = none :=
  if_neg h

end Instant

namespace Schedule

/-- The cycles at some paces on a clock without end, the first due at a given time. -/
def timetable (frequency : Duration) (due : Instant) : List Pace → List Turn
  | [] => []
  | pace :: paces =>
    let t := turn due pace
    t :: timetable frequency (max (due + frequency) t.ended) paces

/-- A cycle that begins and ends at a pace. -/
structure Pace.Shown (pace : Pace) (t : Turn) : Prop where
  began : t.began = t.due + pace.late
  ended : t.ended = t.began + pace.took

/-- The second of two cycles follows the first without overlap, a period later or, if that is over,
at once. -/
structure Succeeds (frequency : Duration) (t u : Turn) : Prop where
  ended_le_began : t.ended ≤ u.began
  due_add_le : t.due + frequency ≤ u.due
  due_of_in_time : t.ended ≤ t.due + frequency → u.due = t.due + frequency
  due_of_overrun : t.due + frequency < t.ended → u.due = t.ended

@[simp] theorem due_turn (due : Instant) (pace : Pace) : (turn due pace).due = due := rfl

section Timetable

variable (frequency : Duration) (due : Instant) (paces : List Pace)

theorem shown_timetable : List.Forall₂ Pace.Shown paces (timetable frequency due paces) := by
  induction paces generalizing due with
  | nil => exact .nil
  | cons pace paces ih => exact .cons ⟨rfl, rfl⟩ (ih _)

theorem length_timetable : (timetable frequency due paces).length = paces.length :=
  (shown_timetable frequency due paces).length_eq.symm

theorem succeeds_turn (t : Turn) (pace : Pace) :
    Succeeds frequency t (turn (max (t.due + frequency) t.ended) pace) where
  ended_le_began := Nat.le_trans (Nat.le_max_right _ _) (Nat.le_add_right _ _)
  due_add_le := Nat.le_max_left _ _
  due_of_in_time h := Nat.max_eq_left h
  due_of_overrun h := Nat.max_eq_right (Nat.le_of_lt h)

theorem isChain_timetable : (timetable frequency due paces).IsChain (Succeeds frequency) := by
  induction paces generalizing due with
  | nil => exact .nil
  | cons pace paces ih =>
    cases paces with
    | nil => exact .singleton _
    | cons next paces => exact .cons_cons (succeeds_turn frequency _ next) (ih _)

variable {frequency due paces}

/-- The cycle number `n` is due no earlier than `n` periods after the first. -/
theorem due_add_mul_le {n : Nat} {t : Turn} (h : (timetable frequency due paces)[n]? = some t) :
    due + n * frequency ≤ t.due := by
  induction paces generalizing due n with
  | nil => cases h
  | cons pace paces ih =>
    cases n with
    | zero =>
      obtain rfl := Option.some.inj h
      rw [Nat.zero_mul]
      exact Nat.le_refl due
    | succ n =>
      have hn := ih h
      have hm : due + frequency ≤ max (due + frequency) (turn due pace).ended := Nat.le_max_left _ _
      rw [Nat.succ_mul]
      unfold Instant Duration at *
      omega

theorem due_le_of_mem {t : Turn} (h : t ∈ timetable frequency due paces) : due ≤ t.due := by
  obtain ⟨n, hn⟩ := List.mem_iff_getElem?.1 h
  exact Nat.le_trans (Nat.le_add_right _ _) (due_add_mul_le hn)

theorem due_le_began {t : Turn} (h : t ∈ timetable frequency due paces) : t.due ≤ t.began := by
  induction paces generalizing due with
  | nil => cases h
  | cons pace paces ih =>
    rcases List.mem_cons.1 h with rfl | h
    · exact Nat.le_add_right _ _
    · exact ih h

theorem pairwise_timetable :
    (timetable frequency due paces).Pairwise fun t u => t.due + frequency ≤ u.due := by
  induction paces generalizing due with
  | nil => exact .nil
  | cons pace paces ih =>
    apply List.Pairwise.cons _ ih
    intro u hu
    exact Nat.le_trans (Nat.le_max_left _ _) (due_le_of_mem hu)

theorem due_add_le_of_lt {m n : Nat} {t u : Turn} (h : m < n)
    (ht : (timetable frequency due paces)[m]? = some t)
    (hu : (timetable frequency due paces)[n]? = some u) : t.due + frequency ≤ u.due := by
  obtain ⟨hm, rfl⟩ := List.getElem?_eq_some_iff.1 ht
  obtain ⟨hn, rfl⟩ := List.getElem?_eq_some_iff.1 hu
  exact List.pairwise_iff_getElem.1 pairwise_timetable m n hm hn h

theorem succeeds_of_getElem? {n : Nat} {t u : Turn}
    (ht : (timetable frequency due paces)[n]? = some t)
    (hu : (timetable frequency due paces)[n + 1]? = some u) : Succeeds frequency t u := by
  obtain ⟨hn, rfl⟩ := List.getElem?_eq_some_iff.1 ht
  obtain ⟨hn', rfl⟩ := List.getElem?_eq_some_iff.1 hu
  exact List.isChain_iff_getElem.1 (isChain_timetable frequency due paces) n hn'

end Timetable

section Planned

variable (frequency : Duration) (due : Instant) (paces : List Pace)

/-- Every instant that is planned on the way can be kept. -/
def Plannable : Prop :=
  ∀ t ∈ timetable frequency due paces, Instant.Fits (t.due + frequency)

instance : Decidable (Plannable frequency due paces) :=
  inferInstanceAs (Decidable (∀ t ∈ timetable frequency due paces, Instant.Fits (t.due + frequency)))

/-- After how many cycles in a row the next one can be planned. -/
def planned : Nat :=
  ((timetable frequency due paces).takeWhile fun t => Instant.Fits (t.due + frequency)).length

theorem plannable_iff : Plannable frequency due paces ↔ planned frequency due paces = paces.length := by
  rw [planned, ← length_timetable frequency due paces]
  constructor
  · intro h
    rw [List.takeWhile_eq_self_iff.2]
    intro t ht
    exact decide_eq_true (h t ht)
  · intro h t ht
    have hw := (List.takeWhile_prefix _).eq_of_length h
    have hp := List.takeWhile_eq_self_iff.1 hw t ht
    exact of_decide_eq_true hp

theorem planned_cons (pace : Pace) : planned frequency due (pace :: paces) =
    if Instant.Fits (due + frequency)
    then planned frequency (max (due + frequency) (turn due pace).ended) paces + 1 else 0 := by
  rw [planned, timetable, List.takeWhile_cons, due_turn]
  by_cases h : Instant.Fits (due + frequency)
  · rw [if_pos h, if_pos (decide_eq_true h), List.length_cons]
    rfl
  · rw [if_neg h, if_neg (Bool.not_eq_true _ ▸ decide_eq_false h), List.length_nil]

/-- A schedule keeps to its timetable up to the first cycle after which no other can be planned. -/
theorem turns_eq : turns frequency due paces =
    ((timetable frequency due paces).take (planned frequency due paces + 1),
      decide (planned frequency due paces = paces.length)) := by
  induction paces generalizing due with
  | nil => rfl
  | cons pace paces ih =>
    rw [turns, next?, planned_cons]
    by_cases h : Instant.Fits (due + frequency)
    · rw [due_turn, Instant.add?_of_fits h, if_pos h]
      simp only [Option.map_some, ih, timetable, List.take_succ_cons, List.length_cons,
        Nat.add_right_cancel_iff]
    · rw [due_turn, Instant.add?_of_not_fits h, if_neg h]
      simp [timetable]

variable {frequency due paces}

theorem turns_of_plannable (h : Plannable frequency due paces) :
    turns frequency due paces = (timetable frequency due paces, true) := by
  have hp := (plannable_iff frequency due paces).1 h
  rw [turns_eq, hp, List.take_of_length_le, decide_eq_true rfl]
  rw [length_timetable]
  exact Nat.le_succ _

end Planned

/-- Cycles are run at a fixed rate: each begins when the one before has ended, and no earlier than
so many periods after the start as there were cycles before it, and they are due a period apart at
least. If one takes longer than its period, the next is due at its end and no other until a period
later, so those that were missed are not made up for. -/
theorem fixed_rate_without_stacking {frequency : Duration} {start : Instant} {paces : List Pace}
    (h : Plannable frequency start paces) :
    let cycles := (turns frequency start paces).1
    List.Forall₂ Pace.Shown paces cycles ∧
      (∀ t ∈ cycles.head?, t.due = start) ∧
      (∀ (n : Nat) (t : Turn), cycles[n]? = some t → start + n * frequency ≤ t.began) ∧
      ∀ (n : Nat) (t u : Turn), cycles[n]? = some t → cycles[n + 1]? = some u →
        Succeeds frequency t u ∧
          (t.due + frequency < t.ended → ∀ (m : Nat) (v : Turn), cycles[m]? = some v →
            m ≠ n + 1 → v.due ≤ t.due ∨ t.ended + frequency ≤ v.due) := by
  intro cycles
  have hc : cycles = timetable frequency start paces := congrArg (·.1) (turns_of_plannable h)
  clear_value cycles
  subst hc
  refine ⟨shown_timetable frequency start paces, ?_, ?_, ?_⟩
  · intro t ht
    cases paces with
    | nil => cases ht
    | cons pace paces =>
      obtain rfl := Option.some.inj ht
      rfl
  · intro n t ht
    exact Nat.le_trans (due_add_mul_le ht) (due_le_began (List.mem_of_getElem? ht))
  · intro n t u ht hu
    have hn := succeeds_of_getElem? ht hu
    refine ⟨hn, ?_⟩
    intro ho m v hv hm
    rcases Nat.lt_or_gt_of_ne hm with hm | hm
    · left
      rcases Nat.lt_or_eq_of_le (Nat.le_of_lt_succ hm) with hm | rfl
      · exact Nat.le_trans (Nat.le_add_right _ _) (due_add_le_of_lt hm hv ht)
      · exact Nat.le_of_eq (congrArg Turn.due (Option.some.inj (hv.symm.trans ht)))
    · right
      rw [← hn.due_of_overrun ho]
      exact due_add_le_of_lt hm hu hv

/-- The second of four cycles takes two periods and a half. -/
theorem fixed_rate_through_overrun :
    let paces : List Pace := [⟨5, 20⟩, ⟨0, 250⟩, ⟨3, 10⟩, ⟨0, 0⟩]
    let cycles := (turns 100 1000 paces).1
    Plannable 100 1000 paces ∧ cycles.map (·.due) = [1000, 1100, 1350, 1450] ∧
      (∀ (n : Nat) (t : Turn), cycles[n]? = some t → 1000 + n * 100 ≤ t.began) ∧
      ∀ (m : Nat) (v : Turn), cycles[m]? = some v → m ≠ 2 →
        v.due ≤ 1100 ∨ 1350 + 100 ≤ v.due := by
  intro paces cycles
  have hp : Plannable 100 1000 paces := by decide
  obtain ⟨-, -, hb, hn⟩ := fixed_rate_without_stacking hp
  refine ⟨hp, rfl, hb, ?_⟩
  exact (hn 1 ⟨1100, 1100, 1350⟩ ⟨1350, 1353, 1363⟩ rfl rfl).2 (by decide)

end Schedule

end Telemetry
