import Telemetry.Proofs.Dispatcher.Moments
import Telemetry.Proofs.Dispatcher.Passages
/-!
# Late outcomes

An outcome is late if its batch was let through before the circuit opened last. A circuit does not
know which outcomes are late. Main statement: a late outcome changes nothing just when no batch was
let through since that opening, save for a success on a closed circuit without failures; if one
was, a late outcome counts like that of a probe.
-/
namespace Telemetry

namespace Circuit

variable {config : BreakerConfig}

/-- The circuit opened in the course of some steps that came after others. -/
def OpenedIn (config : BreakerConfig) (before steps : List Step) : Prop :=
  ∃ part last, part ++ [last] <+: steps ∧ (replay config (before ++ part)).phase ≠ .opened ∧
    (replay config (before ++ part ++ [last])).phase = .opened

/-- A call was let through in the course of some steps that came after others. -/
def LetThroughIn (config : BreakerConfig) (before steps : List Step) : Prop :=
  ∃ part now, part ++ [.enter now] <+: steps ∧
    ((replay config (before ++ part)).enter? config now).isSome

theorem not_openedIn_nil (before : List Step) : ¬ OpenedIn config before [] := by
  rintro ⟨part, last, hp, -⟩
  simp at hp

theorem openedIn_append_singleton (before steps : List Step) (last : Step) :
    OpenedIn config before (steps ++ [last]) ↔ OpenedIn config before steps ∨
      (replay config (before ++ steps)).phase ≠ .opened ∧
        (replay config (before ++ steps ++ [last])).phase = .opened := by
  constructor
  · rintro ⟨part, l, hp, hn, ho⟩
    rcases List.prefix_concat_iff.1 hp with he | hp
    · obtain ⟨rfl, hl⟩ := List.append_inj' he rfl
      obtain rfl : l = last := List.singleton_inj.1 hl
      exact .inr ⟨hn, ho⟩
    · exact .inl ⟨part, l, hp, hn, ho⟩
  · rintro (⟨part, l, hp, h⟩ | h)
    · exact ⟨part, l, hp.trans (List.prefix_append steps [last]), h⟩
    · exact ⟨steps, last, List.prefix_refl _, h⟩

theorem letThroughIn_append_singleton (before steps : List Step) (last : Step) :
    LetThroughIn config before (steps ++ [last]) ↔ LetThroughIn config before steps ∨
      ∃ now, last = .enter now ∧ ((replay config (before ++ steps)).enter? config now).isSome := by
  constructor
  · rintro ⟨part, now, hp, hs⟩
    rcases List.prefix_concat_iff.1 hp with he | hp
    · obtain ⟨rfl, hl⟩ := List.append_inj' he rfl
      exact .inr ⟨now, (List.singleton_inj.1 hl).symm, hs⟩
    · exact .inl ⟨part, now, hp, hs⟩
  · rintro (⟨part, now, hp, hs⟩ | ⟨now, rfl, hs⟩)
    · exact ⟨part, now, hp.trans (List.prefix_append steps [last]), hs⟩
    · exact ⟨steps, now, List.prefix_refl _, hs⟩

/-- The circuit opened last with the last step of `before`. -/
structure LastOpened (config : BreakerConfig) (before later : List Step) : Prop where
  opening : ∃ earlier last, before = earlier ++ [last] ∧ (replay config earlier).phase ≠ .opened
  opened : (replay config before).phase = .opened
  once : ¬ OpenedIn config before later

theorem exists_lastOpened {before steps : List Step} (h : OpenedIn config before steps) :
    ∃ part later, steps = part ++ later ∧ LastOpened config (before ++ part) later := by
  induction steps using List.reverseRecOn with
  | nil => exact absurd h (not_openedIn_nil before)
  | append_singleton steps last ih =>
    by_cases hl : (replay config (before ++ steps)).phase ≠ .opened ∧
        (replay config (before ++ steps ++ [last])).phase = .opened
    · refine ⟨steps ++ [last], [], by simp, ?_, ?_, not_openedIn_nil _⟩
      · exact ⟨before ++ steps, last, by simp, hl.1⟩
      · rw [← List.append_assoc]
        exact hl.2
    · have hs := ((openedIn_append_singleton before steps last).1 h).resolve_right hl
      obtain ⟨part, later, rfl, ho⟩ := ih hs
      refine ⟨part, later ++ [last], by simp, ho.opening, ho.opened, ?_⟩
      rw [openedIn_append_singleton]
      rintro (h | h)
      · exact ho.once h
      · exact hl (by simpa using h)

/-- An open circuit is left open by all but a call that finds its wait over. -/
theorem phase_step_of_opened {c : Circuit} (h : c.phase = .opened) (last : Step) :
    (c.step config last).phase = .opened ↔
      ¬ ∃ now, last = .enter now ∧ (c.enter? config now).isSome := by
  cases c with
  | closed failures => cases h
  | halfOpen successes => cases h
  | opened since =>
    cases last with
    | record now success => simp [Circuit.step, phase]
    | enter now =>
      by_cases hw : now - since < config.connectWait
      · simp [Circuit.step, enter?, hw, phase]
      · simp [Circuit.step, enter?, hw, phase]

/-- A circuit that did not open again is still open just when no call was let through. -/
theorem LastOpened.phase_eq_opened_iff {before later : List Step}
    (h : LastOpened config before later) :
    (replay config (before ++ later)).phase = .opened ↔ ¬ LetThroughIn config before later := by
  obtain ⟨-, ho, hn⟩ := h
  induction later using List.reverseRecOn with
  | nil =>
    have hl : ¬ LetThroughIn config before [] := by
      rintro ⟨part, now, hp, -⟩
      simp at hp
    simp [ho, hl]
  | append_singleton later last ih =>
    rw [openedIn_append_singleton, not_or] at hn
    have hi := ih hn.1
    rw [letThroughIn_append_singleton, not_or, ← hi, ← List.append_assoc]
    constructor
    · intro hp
      have hb : (replay config (before ++ later)).phase = .opened := by
        by_contra hb
        exact hn.2 ⟨hb, hp⟩
      rw [replay_append] at hp
      exact ⟨hb, (phase_step_of_opened hb last).1 hp⟩
    · rintro ⟨hb, hp⟩
      rw [replay_append]
      exact (phase_step_of_opened hb last).2 hp

/-- An outcome changes nothing in an open circuit, and a success nothing in one that is closed
without failures. -/
theorem record_eq_self_iff (now : Instant) (success : Bool) (c : Circuit) :
    c.record config now success = c ↔
      c.phase = .opened ∨ c = closed 0 ∧ success = true := by
  cases c with
  | opened since => simp [phase]
  | closed failures =>
    cases success with
    | true => simp [record, phase, eq_comm]
    | false =>
      by_cases hf : config.failureThreshold ≤ failures + 1
      · simp [record, hf, phase]
      · simp [record, hf, phase]
  | halfOpen successes =>
    cases success with
    | false => simp [record, phase]
    | true =>
      by_cases hs : config.successThreshold ≤ successes + 1
      · simp [record, hs, phase]
      · simp [record, hs, phase]

end Circuit

namespace Script

variable (d : Dispatcher) (config : BreakerConfig) (calls : Nat → Script)
  (u : Scene (List Nested))

/-- How the last attempt goes at a batch that is let through in the scene `u`, and the scene in
which that is known and not yet recorded. -/
def attempted : Except PublishError Duration × Scene (List Nested) :=
  let ((result, _), v) := d.attempt (fun i => run d (calls i)) d.retries 0
    (u.step d.name config (.enter u.now))
  (result, v)

/-- The batch is let through in the scene `u`, and the circuit has opened when its outcome is
known. -/
def Late : Prop :=
  (u.circuit.enter? config u.now).isSome ∧
    ∃ since, (attempted d config calls u).2.steps = u.steps ++ [.enter u.now] ++ since ∧
      Circuit.OpenedIn config (u.steps ++ [.enter u.now]) since

variable {d config calls u}

variable (calls) in
/-- A batch that is let through leaves the circuit as the record of its outcome does. -/
theorem circuit_dispatch_of_enter (hd : d.breaker = some config)
    (h : (u.circuit.enter? config u.now).isSome) :
    (d.dispatch (fun i => run d (calls i)) u).2.circuit =
      (attempted d config calls u).2.circuit.record config (attempted d config calls u).2.now
        (Dispatcher.verdict config (attempted d config calls u).1 == some false) := by
  obtain ⟨c, hc⟩ := Option.isSome_iff_exists.1 h
  rw [Dispatcher.dispatch_of_enter?_eq_some _ hd hc, (Dispatcher.conclude_snd ..).1,
    Dispatcher.circuit_observe]
  rfl

theorem Stable.attempted {P : Scene (List Nested) → Prop} (st : Stable d P)
    (hd : d.breaker = some config) (h : P u) : P (attempted d config calls u).2 := by
  have called (i : Nat) (s : Scene (List Nested)) {result : Except PublishError Unit}
      {s' : Scene (List Nested)} (h : P s) (hc : Script.run d (calls i) s = (result, s')) :
      P s' := by
    have hr : P (Script.run d (calls i) s).2 := st.run h
    rwa [hc] at hr
  have ha : Dispatcher.Attempted P P _ (d.attempt (fun i => Script.run d (calls i)) d.retries 0
      (u.step d.name config (.enter u.now))).2 :=
    Dispatcher.attempt_spec st.log (fun i s _ _ => called i s) (fun i s _ => called i s)
      (st.step u config (.enter u.now) hd rfl h)
  rw [Script.attempted]
  generalize d.attempt _ _ _ _ = made at ha
  obtain ⟨⟨result, n⟩, v⟩ := made
  cases result <;> exact ha

/-- A late outcome changes nothing just when no batch was let through since the circuit opened
last, save for a success on a closed circuit without failures; else it counts like any other. -/
theorem late_outcome_ignored_iff (hd : d.breaker = some config) {script : Script} {start : Instant}
    (hp : Passes d script { world := [], now := start } u) (hl : Late d config calls u) :
    let result := (attempted d config calls u).1
    let v := (attempted d config calls u).2
    ∃ before later, v.steps = before ++ later ∧ u.steps ++ [.enter u.now] <+: before ∧
      Circuit.LastOpened config before later ∧
      ((d.dispatch (fun i => run d (calls i)) u).2.circuit = v.circuit ↔
        ¬ Circuit.LetThroughIn config before later ∨
          v.circuit = .closed 0 ∧ Dispatcher.verdict config result = some false) ∧
      (d.dispatch (fun i => run d (calls i)) u).2.circuit =
        v.circuit.record config v.now (Dispatcher.verdict config result == some false) := by
  intro result v
  obtain ⟨hin, since, hs, ho⟩ := hl
  obtain ⟨part, later, rfl, hlast⟩ := Circuit.exists_lastOpened ho
  have hv : v.Faithful config := (Scene.Faithful.stable hd).attempted hd (.passes hd hp)
  have hc := circuit_dispatch_of_enter calls hd hin
  have hs' : v.steps = u.steps ++ [.enter u.now] ++ part ++ later := by
    rw [List.append_assoc _ part later]
    exact hs
  refine ⟨_, later, hs', List.prefix_append _ part, hlast, ?_, hc⟩
  rw [hc, Circuit.record_eq_self_iff, ← hlast.phase_eq_opened_iff, ← hs', ← hv.circuit_eq]
  simp only [beq_iff_eq]
  exact Iff.rfl

private def guarded : Dispatcher := ⟨"backend", 1, some quickBreaker⟩

private def down : Script := .answer (.error (.other "down"))

/-- An attempt during which another batch fails, so that the circuit opens. -/
private def overtaken (answer : Script) : Script :=
  .dispatch (fun _ => down) answer

theorem late_success_ignored :
    let u : Scene (List Nested) := { world := [] }
    let calls := fun _ => overtaken (.answer (.ok ()))
    let v := (attempted guarded quickBreaker calls u).2
    Late guarded quickBreaker calls u ∧ v.circuit = .opened 0 ∧
      ∃ before later, v.steps = before ++ later ∧ Circuit.LastOpened quickBreaker before later ∧
        ((guarded.dispatch (fun i => run guarded (calls i)) u).2.circuit = .opened 0 ↔
          ¬ Circuit.LetThroughIn quickBreaker before later ∨
            v.circuit = .closed 0 ∧ Dispatcher.verdict quickBreaker (.ok 0) = some false) := by
  intro u calls v
  have hl : Late guarded quickBreaker calls u :=
    ⟨rfl, [.enter 0, .record 0 false], rfl, [.enter 0], .record 0 false, List.prefix_refl _,
      by decide, rfl⟩
  have hp : Passes guarded down { world := [], now := 0 } u := .here
  obtain ⟨before, later, hs, -, hlast, hi, -⟩ := late_outcome_ignored_iff rfl hp hl
  exact ⟨hl, rfl, before, later, hs, hlast, hi⟩

/-- A first attempt as above and, after the wait, a second one during which a probe succeeds. -/
private def straddling : Nat → Script
  | 0 => overtaken down
  | _ => .advance 5 (.dispatch (fun _ => .answer (.ok ())) (.answer (.ok ())))

/-- The success of a batch from before the circuit opened can close it in place of a probe. -/
theorem not_late_outcome_ignored :
    ¬ ∀ (d : Dispatcher) (config : BreakerConfig) (script : Script) (start : Instant)
      (u : Scene (List Nested)) (calls : Nat → Script), d.breaker = some config →
      Passes d script { world := [], now := start } u → Late d config calls u →
      (d.dispatch (fun i => run d (calls i)) u).2.circuit =
        (attempted d config calls u).2.circuit := by
  intro h
  let u : Scene (List Nested) := { world := [] }
  have hl : Late guarded quickBreaker straddling u :=
    ⟨rfl, [.enter 0, .record 0 false, .enter 5, .record 5 true], rfl, [.enter 0],
      .record 0 false, ⟨[.enter 5, .record 5 true], rfl⟩, by decide, rfl⟩
  have he := h guarded quickBreaker (.dispatch straddling down) 0 u straddling rfl .here hl
  have hc : Circuit.closed 0 = .halfOpen 1 := he
  cases hc

end Script

end Telemetry
