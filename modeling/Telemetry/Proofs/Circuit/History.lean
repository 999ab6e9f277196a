import Telemetry.Circuit
import Mathlib.Data.List.Induction
/-!
# Circuits and their histories

The counts in a circuit are read off what happened to it since it last changed its phase. Main
statement: after any steps the circuit is explained by them, for all thresholds and waits.
-/
namespace Telemetry.Circuit

/-- A circuit without its counts. -/
inductive Phase where
  | closed | opened | halfOpen
deriving DecidableEq, Repr

def phase : Circuit → Phase
  | closed _ => .closed
  | opened _ => .opened
  | halfOpen _ => .halfOpen

/-- The phases that may come right after one another. -/
inductive Phase.Follows : Phase → Phase → Prop where
  | opening : Follows .closed .opened
  | probing : Follows .opened .halfOpen
  | closing : Follows .halfOpen .closed
  | reopening : Follows .halfOpen .opened

def Step.time : Step → Instant
  | enter now => now
  | record now _ => now

def Step.outcome? : Step → Option Bool
  | enter _ => none
  | record _ success => some success

/-- The outcomes among some steps, in order. -/
def outcomes (steps : List Step) : List Bool :=
  steps.filterMap Step.outcome?

/-- The number of failures after the last success. -/
def trailingFailures (outcomes : List Bool) : Nat :=
  (outcomes.reverse.takeWhile (!·)).length

/-- The phase came about with the last step of `before`, or with the circuit itself, and stayed the
same all through `after`. -/
structure Settled (config : BreakerConfig) (before after : List Step) : Prop where
  changed : before = [] ∨ ∃ earlier last, before = earlier ++ [last] ∧
    (replay config earlier).phase ≠ (replay config before).phase
  kept : ∀ part, part <+: after →
    (replay config (before ++ part)).phase = (replay config before).phase

/-- What a circuit has to be if its phase settled with `before` and `after` came since. The counts
stay below the thresholds, or below one where a threshold is zero. -/
def Accounted (config : BreakerConfig) (now : Instant) (before after : List Step) :
    Circuit → Prop
  | closed failures =>
    failures < max config.failureThreshold 1 ∧ failures = trailingFailures (outcomes after)
  | halfOpen successes =>
    successes < max config.successThreshold 1 ∧ successes = (outcomes after).length ∧
      ∀ success ∈ outcomes after, success = true
  | opened since => since ≤ now ∧ ∃ earlier, before = earlier ++ [.record since false]

/-- The steps up to `now` lead to the circuit, whose counts say what happened since it settled. -/
def Explained (config : BreakerConfig) (now : Instant) (steps : List Step) (c : Circuit) : Prop :=
  c = replay config steps ∧ ∃ before after, steps = before ++ after ∧
    Settled config before after ∧ Accounted config now before after c

section Outcomes

@[simp] theorem outcomes_nil : outcomes [] = [] := rfl

@[simp] theorem outcomes_append_enter (steps : List Step) (now : Instant) :
    outcomes (steps ++ [.enter now]) = outcomes steps := by
  simp [outcomes, Step.outcome?]

@[simp] theorem outcomes_append_record (steps : List Step) (now : Instant) (success : Bool) :
    outcomes (steps ++ [.record now success]) = outcomes steps ++ [success] := by
  simp [outcomes, Step.outcome?]

@[simp] theorem trailingFailures_append_success (outcomes : List Bool) :
    trailingFailures (outcomes ++ [true]) = 0 := by
  simp [trailingFailures]

@[simp] theorem trailingFailures_append_failure (outcomes : List Bool) :
    trailingFailures (outcomes ++ [false]) = trailingFailures outcomes + 1 := by
  simp [trailingFailures]

end Outcomes

section Settled

variable {config : BreakerConfig}

theorem Settled.of_change {earlier : List Step} {last : Step}
    (h : (replay config earlier).phase ≠ (replay config (earlier ++ [last])).phase) :
    Settled config (earlier ++ [last]) [] where
  changed := .inr ⟨earlier, last, rfl, h⟩
  kept part hp := by
    rw [List.prefix_nil.1 hp, List.append_nil]

theorem Settled.append {before after : List Step} (h : Settled config before after) {last : Step}
    (hl : (replay config (before ++ after ++ [last])).phase =
      (replay config (before ++ after)).phase) :
    Settled config before (after ++ [last]) where
  changed := h.changed
  kept part hp := by
    rcases List.prefix_concat_iff.1 hp with rfl | hp
    · rw [← List.append_assoc, hl]
      exact h.kept after (List.prefix_refl after)
    · exact h.kept part hp

theorem settled_nil : Settled config [] [] where
  changed := .inl rfl
  kept part hp := by
    rw [List.prefix_nil.1 hp, List.append_nil]

end Settled

/-- All that a step can do to a circuit. -/
inductive Moves (config : BreakerConfig) : Circuit → Step → Circuit → Prop where
  | entered {c : Circuit} {now : Instant} : Moves config c (.enter now) c
  | probed {since now : Instant} (h : config.connectWait ≤ now - since) :
    Moves config (opened since) (.enter now) (halfOpen 0)
  | ignored {since now : Instant} {success : Bool} :
    Moves config (opened since) (.record now success) (opened since)
  | recovered {failures : Nat} {now : Instant} :
    Moves config (closed failures) (.record now true) (closed 0)
  | failed {failures : Nat} {now : Instant} (h : failures + 1 < config.failureThreshold) :
    Moves config (closed failures) (.record now false) (closed (failures + 1))
  | tripped {failures : Nat} {now : Instant} (h : config.failureThreshold ≤ failures + 1) :
    Moves config (closed failures) (.record now false) (opened now)
  | passed {successes : Nat} {now : Instant} (h : successes + 1 < config.successThreshold) :
    Moves config (halfOpen successes) (.record now true) (halfOpen (successes + 1))
  | restored {successes : Nat} {now : Instant} (h : config.successThreshold ≤ successes + 1) :
    Moves config (halfOpen successes) (.record now true) (closed 0)
  | relapsed {successes : Nat} {now : Instant} :
    Moves config (halfOpen successes) (.record now false) (opened now)

theorem moves_step (config : BreakerConfig) (c : Circuit) (step : Step) :
    Moves config c step (c.step config step) := by
  cases step with
  | enter now =>
    cases c with
    | closed failures => exact .entered
    | halfOpen successes => exact .entered
    | opened since =>
      by_cases hw : now - since < config.connectWait
      · simpa [Circuit.step, enter?, hw] using Moves.entered
      · simpa [Circuit.step, enter?, hw] using Moves.probed (Nat.le_of_not_lt hw)
  | record now success =>
    cases c with
    | opened since => exact .ignored
    | closed failures =>
      cases success with
      | true => exact .recovered
      | false =>
        by_cases hf : config.failureThreshold ≤ failures + 1
        · simpa [Circuit.step, record, hf] using Moves.tripped hf
        · simpa [Circuit.step, record, hf] using Moves.failed (Nat.lt_of_not_le hf)
    | halfOpen successes =>
      cases success with
      | false => exact .relapsed
      | true =>
        by_cases hs : config.successThreshold ≤ successes + 1
        · simpa [Circuit.step, record, hs] using Moves.restored hs
        · simpa [Circuit.step, record, hs] using Moves.passed (Nat.lt_of_not_le hs)

theorem Moves.follows {config : BreakerConfig} {c c' : Circuit} {step : Step}
    (m : Moves config c step c') (h : c.phase ≠ c'.phase) : c.phase.Follows c'.phase := by
  cases m with
  | probed => exact .probing
  | tripped => exact .opening
  | restored => exact .closing
  | relapsed => exact .reopening
  | _ => exact absurd rfl h

theorem phase_follows (config : BreakerConfig) (earlier : List Step) (last : Step)
    (h : (replay config earlier).phase ≠ (replay config (earlier ++ [last])).phase) :
    (replay config earlier).phase.Follows (replay config (earlier ++ [last])).phase := by
  rw [replay_append] at h ⊢
  exact (moves_step config _ last).follows h

section Explained

variable {config : BreakerConfig} {now : Instant}

/-- A step that keeps the phase adds to what happened since it settled. -/
theorem Accounted.of_move {before after : List Step} {c c' : Circuit} {step : Step}
    (h : Accounted config now before after c) (m : Moves config c step c')
    (hp : c.phase = c'.phase) : Accounted config now before (after ++ [step]) c' := by
  cases m with
  | entered => cases c <;> simpa [Accounted] using h
  | ignored => exact h
  | recovered => exact ⟨by omega, by simp⟩
  | failed hf =>
    obtain ⟨-, hn⟩ := h
    exact ⟨by omega, by simp [hn]⟩
  | passed hs =>
    obtain ⟨-, hn, ha⟩ := h
    refine ⟨by omega, by simp [hn], ?_⟩
    intro success hm
    rw [outcomes_append_record, List.mem_append, List.mem_singleton] at hm
    exact hm.elim (ha success) id
  | probed | tripped | restored | relapsed => cases hp

/-- A step that changes the phase leaves nothing to account for but itself. -/
theorem Accounted.of_change {earlier : List Step} {c c' : Circuit} {step : Step}
    (m : Moves config c step c') (hn : step.time ≤ now) (hp : c.phase ≠ c'.phase) :
    Accounted config now (earlier ++ [step]) [] c' := by
  cases m with
  | probed => exact ⟨by omega, rfl, by simp⟩
  | tripped | relapsed => exact ⟨hn, earlier, rfl⟩
  | restored => exact ⟨by omega, rfl⟩
  | entered | ignored | recovered | failed | passed => exact absurd rfl hp

/-- Steps explain the circuit that they lead to, at any time that none of them is after. -/
theorem explained_replay {steps : List Step} (h : ∀ step ∈ steps, step.time ≤ now) :
    Explained config now steps (replay config steps) := by
  refine ⟨rfl, ?_⟩
  induction steps using List.reverseRecOn with
  | nil => exact ⟨[], [], rfl, settled_nil, by omega, rfl⟩
  | append_singleton steps last ih =>
    have hn : last.time ≤ now := h last (List.mem_append_right _ (List.mem_singleton_self last))
    have m := moves_step config (replay config steps) last
    rw [← replay_append] at m
    by_cases hp : (replay config steps).phase = (replay config (steps ++ [last])).phase
    · obtain ⟨before, after, he, hs, ha⟩ := ih fun step hm => h step (List.mem_append_left _ hm)
      refine ⟨before, after ++ [last], ?_, hs.append ?_, ha.of_move m hp⟩
      · rw [he, List.append_assoc]
      · rw [← he, hp]
    · exact ⟨steps ++ [last], [], (List.append_nil _).symm, .of_change hp, .of_change m hn hp⟩

end Explained

end Telemetry.Circuit
