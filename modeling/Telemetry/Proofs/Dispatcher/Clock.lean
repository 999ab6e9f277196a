import Telemetry.Proofs.Dispatcher.Calls
/-!
# Dispatches while the clock stands

At whichever reading the clock stands, a dispatch whose calls take no time comes to the same, and
notes that reading where it notes one.
-/
namespace Telemetry

namespace Circuit

/-- The circuit if it was opened, in case it is open, at `t`. -/
def heldAt (t : Instant) : Circuit → Circuit
  | opened _ => opened t
  | c => c

def Step.heldAt (t : Instant) : Step → Step
  | enter _ => enter t
  | record _ success => record t success

variable (t : Instant) (c : Circuit) (config : BreakerConfig)

@[simp] theorem heldAt_heldAt (u : Instant) : (c.heldAt u).heldAt t = c.heldAt t := by
  cases c <;> rfl

theorem enter?_heldAt :
    (c.heldAt t).enter? config t = (c.enter? config 0).map (heldAt t) := by
  cases c with
  | closed failures => rfl
  | halfOpen successes => rfl
  | opened since =>
    simp only [heldAt, enter?, Nat.sub_self, Nat.zero_sub]
    split <;> rfl

theorem record_heldAt (success : Bool) :
    (c.heldAt t).record config t success = (c.record config 0 success).heldAt t := by
  cases c with
  | closed failures =>
    simp only [heldAt, record]
    split
    · rfl
    · split <;> rfl
  | halfOpen successes =>
    simp only [heldAt, record]
    split
    · rfl
    · split <;> rfl
  | opened since => rfl

theorem step_heldAt (step : Step) (h : step.time = 0) :
    (c.heldAt t).step config (step.heldAt t) = (c.step config step).heldAt t := by
  cases step with
  | enter now =>
    obtain rfl : now = 0 := h
    rw [Step.heldAt, Circuit.step, Circuit.step, enter?_heldAt, Option.getD_map]
  | record now success =>
    obtain rfl : now = 0 := h
    exact record_heldAt t c config success

theorem changeEvents_heldAt (publisher : String) (c' : Circuit) :
    changeEvents publisher (c.heldAt t) (c'.heldAt t) = changeEvents publisher c c' := by
  cases c <;> cases c' <;> rfl

end Circuit

/-- The scene if the clock has always stood at `t`. -/
def Scene.heldAt {σ : Type} (t : Instant) (s : Scene σ) : Scene σ :=
  { s with now := t, circuit := s.circuit.heldAt t, steps := s.steps.map (·.heldAt t) }

@[simp] theorem Scene.now_heldAt {σ : Type} (t : Instant) (s : Scene σ) :
    (s.heldAt t).now = t := rfl

theorem Scene.step_heldAt {σ : Type} (t : Instant) (s : Scene σ) (publisher : String)
    (config : BreakerConfig) (step : Circuit.Step) (h : step.time = 0) :
    (s.heldAt t).step publisher config (step.heldAt t) =
      (s.step publisher config step).heldAt t := by
  simp only [Scene.step, Scene.heldAt, Scene.log, Circuit.step_heldAt t s.circuit config step h,
    Circuit.changeEvents_heldAt, List.map_append, List.map_cons, List.map_nil]

namespace Dispatcher

variable {σ : Type}

/-- No time passes in the calls, and they do the same at every reading of the clock. -/
structure Timeless (publish : Nat → Call σ) : Prop where
  now : ∀ i s, (publish i s).2.now = s.now
  heldAt : ∀ i s t, publish i (s.heldAt t) = ((publish i s).1, (publish i s).2.heldAt t)

variable (d : Dispatcher) {publish : Nat → Call σ} (hp : Timeless publish) (t : Instant)
include hp

theorem attempt_heldAt {s : Scene σ} (h0 : s.now = 0) (left made : Nat) :
    (d.attempt publish left made s).2.now = 0 ∧
      d.attempt publish left made (s.heldAt t) =
        ((d.attempt publish left made s).1, (d.attempt publish left made s).2.heldAt t) := by
  have after {made : Nat} {s s' : Scene σ} {r : Except PublishError Unit} (h0 : s.now = 0)
      (h : publish made s = (r, s')) :
      s'.now = 0 ∧ publish made (s.heldAt t) = (r, s'.heldAt t) := by
    have hn := hp.now made s
    rw [h] at hn
    exact ⟨hn.trans h0, by rw [hp.heldAt, h]⟩
  fun_induction attempt d publish left made s with
  | case1 left made s s' h =>
    obtain ⟨hn, hc⟩ := after h0 h
    refine ⟨hn, ?_⟩
    rw [attempt.eq_def]
    simp [hc, h0, hn]
  | case2 made s e s' h =>
    obtain ⟨hn, hc⟩ := after h0 h
    refine ⟨hn, ?_⟩
    rw [attempt.eq_def]
    simp only [hc]
  | case3 made s e s' h left hs =>
    obtain ⟨hn, hc⟩ := after h0 h
    have hs' : (s'.heldAt t).stopped = true := hs
    refine ⟨hn, ?_⟩
    rw [attempt.eq_def]
    simp only [hc, hs', if_true]
    rfl
  | case4 made s e s' h left hs ih =>
    obtain ⟨hn, hc⟩ := after h0 h
    have hs' : (s'.heldAt t).stopped ≠ true := hs
    obtain ⟨hl, hr⟩ := ih hn
    refine ⟨hl, ?_⟩
    rw [attempt.eq_def]
    simp only [hc, if_neg hs']
    exact hr

omit hp in
theorem observe_heldAt (config : BreakerConfig) (result : Except PublishError Duration)
    {s : Scene σ} (h0 : s.now = 0) :
    d.observe config result (s.heldAt t) = (d.observe config result s).heldAt t := by
  have step (s : Scene σ) (h0 : s.now = 0) (ok : Bool) :
      (s.heldAt t).step d.name config (.record t ok) =
        (s.step d.name config (.record s.now ok)).heldAt t :=
    Scene.step_heldAt t s d.name config (.record s.now ok) h0
  cases result with
  | error e => exact step s h0 false
  | ok elapsed =>
    rw [observe, observe]
    split
    · exact step (s.log _) h0 false
    · exact step s h0 true

omit hp in
theorem conclude_heldAt (result : Except PublishError Duration) (calls : Nat) (s : Scene σ) :
    d.conclude result calls (s.heldAt t) =
      ((d.conclude result calls s).1, (d.conclude result calls s).2.heldAt t) := by
  cases result <;> rfl

/-- A dispatch comes to the same at every reading at which the clock stands. -/
theorem dispatch_heldAt {s : Scene σ} (h0 : s.now = 0) :
    d.dispatch publish (s.heldAt t) =
      ((d.dispatch publish s).1, (d.dispatch publish s).2.heldAt t) := by
  cases hb : d.breaker with
  | none =>
    have ha := (d.attempt_heldAt hp t h0 d.retries 0).2
    rw [dispatch_of_breaker_eq_none publish hb, dispatch_of_breaker_eq_none publish hb, ha,
      conclude_heldAt]
  | some config =>
    have he : (s.heldAt t).circuit.enter? config (s.heldAt t).now =
        (s.circuit.enter? config s.now).map (Circuit.heldAt t) := by
      rw [h0]
      exact Circuit.enter?_heldAt t s.circuit config
    cases hc : s.circuit.enter? config s.now with
    | none =>
      rw [hc] at he
      rw [dispatch_of_enter?_eq_none publish hb hc, dispatch_of_enter?_eq_none publish hb he]
      rfl
    | some c =>
      rw [hc] at he
      have hs : (s.heldAt t).step d.name config (.enter (s.heldAt t).now) =
          (s.step d.name config (.enter s.now)).heldAt t :=
        Scene.step_heldAt t s d.name config (.enter s.now) h0
      obtain ⟨hn, ha⟩ := d.attempt_heldAt hp t
        (s := s.step d.name config (.enter s.now)) h0 d.retries 0
      rw [dispatch_of_enter?_eq_some publish hb hc, dispatch_of_enter?_eq_some publish hb he]
      simp only [hs, ha, observe_heldAt d t config _ hn, conclude_heldAt]

end Dispatcher

end Telemetry
