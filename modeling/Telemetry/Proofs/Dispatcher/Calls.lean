import Telemetry.Dispatcher
import Telemetry.Proofs.Circuit.History
/-!
# The calls of a dispatch

In which scenes the publish calls of a batch are made, and what a dispatch leaves as it is if each
of its calls does. A batch is rejected just when no call is made for it.
-/
namespace Telemetry.Dispatcher

variable {σ : Type} (d : Dispatcher) (publish : Nat → Call σ)

/-- The scenes in which the calls of some attempts are made. -/
def attemptScenes : (left made : Nat) → Scene σ → List (Scene σ)
  | left, made, s =>
    s :: match publish made s with
      | (.ok (), _) => []
      | (.error e, s') =>
        match left with
        | 0 => []
        | left + 1 =>
          if s'.stopped then []
          else attemptScenes left (made + 1)
            (s'.log [.retrying d.name (made + 1) d.retries e.message])

/-- The scenes in which the calls of a dispatch are made, one after the other. -/
def callScenes (s : Scene σ) : List (Scene σ) :=
  match d.breaker with
  | none => d.attemptScenes publish d.retries 0 s
  | some config =>
    match s.circuit.enter? config s.now with
    | none => []
    | some _ => d.attemptScenes publish d.retries 0 (s.step d.name config (.enter s.now))

theorem attempt_calls (left made : Nat) (s : Scene σ) :
    (d.attempt publish left made s).1.2 = made + (d.attemptScenes publish left made s).length := by
  fun_induction attempt d publish left made s with
  | case1 left made s s' h =>
    rw [attemptScenes.eq_def]
    simp [h]
  | case2 made s e s' h =>
    rw [attemptScenes.eq_def]
    simp [h]
  | case3 made s e s' h left hs =>
    rw [attemptScenes.eq_def]
    simp [h, hs]
  | case4 made s e s' h left hs ih =>
    rw [attemptScenes.eq_def, ih]
    simp only [h, hs, List.length_cons, Bool.false_eq_true, if_false]
    omega

@[simp] theorem conclude_calls (result : Except PublishError Duration) (calls : Nat)
    (s : Scene σ) : (d.conclude result calls s).1.calls = calls := by
  cases result <;> rfl

theorem conclude_outcome_ne_rejected (result : Except PublishError Duration) (calls : Nat)
    (s : Scene σ) : (d.conclude result calls s).1.outcome ≠ .rejected := by
  cases result <;> simp [conclude]

section Cases

variable {d} {s : Scene σ} {config : BreakerConfig}

/-- What a dispatch without a circuit comes to, and one that its circuit lets in. -/
theorem dispatch_of_breaker_eq_none (hb : d.breaker = none) :
    d.dispatch publish s = d.conclude (d.attempt publish d.retries 0 s).1.1
      (d.attempt publish d.retries 0 s).1.2 (d.attempt publish d.retries 0 s).2 := by
  simp only [dispatch, hb]

theorem dispatch_of_enter?_eq_some (hb : d.breaker = some config) {c : Circuit}
    (h : s.circuit.enter? config s.now = some c) :
    d.dispatch publish s =
      let attempted := d.attempt publish d.retries 0 (s.step d.name config (.enter s.now))
      d.conclude attempted.1.1 attempted.1.2 (d.observe config attempted.1.1 attempted.2) := by
  simp only [dispatch, hb, h]

/-- A dispatch that its circuit does not let in makes no call and changes nothing. -/
theorem dispatch_of_enter?_eq_none (hb : d.breaker = some config)
    (h : s.circuit.enter? config s.now = none) :
    d.dispatch publish s = (⟨.rejected, 0⟩, s.log [.circuitRejected d.name]) := by
  simp only [dispatch, hb, h]

theorem dispatch_outcome_eq_rejected_iff (hb : d.breaker = some config) :
    (d.dispatch publish s).1.outcome = .rejected ↔ s.circuit.enter? config s.now = none := by
  cases h : s.circuit.enter? config s.now with
  | none => simp [dispatch_of_enter?_eq_none publish hb h]
  | some c =>
    rw [dispatch_of_enter?_eq_some publish hb h]
    simp [conclude_outcome_ne_rejected]

end Cases

section Spec

/-- `Q` if the last attempt went well, `R` if not. -/
def Attempted (R Q : Scene σ → Prop) : Except PublishError Duration → Scene σ → Prop
  | .ok _, s => Q s
  | .error _, s => R s

/-- `Q` if the batch was published, `R` if not. -/
def Concluded (R Q : Scene σ → Prop) : Outcome → Scene σ → Prop
  | .published, s => Q s
  | .failed, s | .rejected, s => R s

variable {d publish} {R Q : Scene σ → Prop} (logR : ∀ s events, R s → R (s.log events))
  (failed : ∀ i s e s', R s → publish i s = (.error e, s') → R s')
  (succeeded : ∀ i s s', R s → publish i s = (.ok (), s') → Q s')
include logR failed succeeded

/-- What holds after some attempts if calls that fail keep `R` and one that succeeds brings about
`Q`. -/
theorem attempt_spec {left made : Nat} {s : Scene σ} (h : R s) :
    Attempted R Q (d.attempt publish left made s).1.1 (d.attempt publish left made s).2 := by
  fun_induction attempt d publish left made s with
  | case1 left made s s' hc => exact succeeded made s s' h hc
  | case2 made s e s' hc => exact failed made s e s' h hc
  | case3 made s e s' hc left hs => exact logR s' _ (failed made s e s' h hc)
  | case4 made s e s' hc left hs ih => exact ih (logR s' _ (failed made s e s' h hc))

variable (logQ : ∀ s events, Q s → Q (s.log events))
  (stepR : ∀ s config step, d.breaker = some config → step.time = s.now → R s →
    R (s.step d.name config step))
  (stepQ : ∀ s config step, d.breaker = some config → step.time = s.now → Q s →
    Q (s.step d.name config step))
include logQ stepR stepQ

omit logR failed succeeded in
theorem observe_spec {config : BreakerConfig} (hb : d.breaker = some config)
    {result : Except PublishError Duration} {s : Scene σ}
    (h : Attempted R Q result s) : Attempted R Q result (d.observe config result s) := by
  cases result with
  | error e => exact stepR s config _ hb rfl h
  | ok elapsed =>
    rw [observe]
    split
    · exact stepQ _ config _ hb rfl (logQ s _ h)
    · exact stepQ s config _ hb rfl h

omit failed succeeded logQ stepR stepQ in
theorem conclude_spec {result : Except PublishError Duration} {calls : Nat} {s : Scene σ}
    (h : Attempted R Q result s) :
    Concluded R Q (d.conclude result calls s).1.outcome (d.conclude result calls s).2 := by
  cases result with
  | ok elapsed => exact h
  | error e => exact logR s _ h

variable (d publish) in
/-- A dispatch brings about `Q` if the batch is published, and keeps `R` otherwise. -/
theorem dispatch_spec {s : Scene σ} (h : R s) :
    Concluded R Q (d.dispatch publish s).1.outcome (d.dispatch publish s).2 := by
  cases hb : d.breaker with
  | none =>
    rw [dispatch_of_breaker_eq_none publish hb]
    exact conclude_spec logR (attempt_spec logR failed succeeded h)
  | some config =>
    cases he : s.circuit.enter? config s.now with
    | none =>
      rw [dispatch_of_enter?_eq_none publish hb he]
      exact logR s _ h
    | some c =>
      rw [dispatch_of_enter?_eq_some publish hb he]
      apply conclude_spec logR
      apply observe_spec logQ stepR stepQ hb
      exact attempt_spec logR failed succeeded (stepR s config _ hb rfl h)

end Spec

section Keeps

variable {d publish} {P : Scene σ → Prop} (logs : ∀ s events, P s → P (s.log events))
  (calls : ∀ i s, P s → P (publish i s).2)
include logs calls

theorem attemptScenes_keep {left made : Nat} {s : Scene σ} (h : P s) :
    ∀ u ∈ d.attemptScenes publish left made s, P u := by
  induction left, made, s using attempt.induct d publish with
  | case1 left made s s' hc =>
    rw [attemptScenes.eq_def]
    simpa [hc] using h
  | case2 made s e s' hc =>
    rw [attemptScenes.eq_def]
    simpa [hc] using h
  | case3 made s e s' hc left hs =>
    rw [attemptScenes.eq_def]
    simpa [hc, hs] using h
  | case4 made s e s' hc left hs ih =>
    have hs' : P s' := by simpa [hc] using calls made s h
    rw [attemptScenes.eq_def]
    simpa [hc, hs, h] using ih (logs _ _ hs')

variable (steps : ∀ s config step, d.breaker = some config → step.time = s.now → P s →
  P (s.step d.name config step))
include steps

theorem callScenes_keep {s : Scene σ} (h : P s) : ∀ u ∈ d.callScenes publish s, P u := by
  intro u hu
  unfold callScenes at hu
  split at hu
  · exact attemptScenes_keep logs calls h u hu
  · rename_i config hb
    split at hu
    · simp at hu
    · exact attemptScenes_keep logs calls (steps s config _ hb rfl h) u hu

/-- What logging, every call and every step of the circuit keep, a dispatch keeps. -/
theorem dispatch_keeps {s : Scene σ} (h : P s) : P (d.dispatch publish s).2 := by
  have hc (i : Nat) (s : Scene σ) {result : Except PublishError Unit} {s' : Scene σ} (h : P s)
      (he : publish i s = (result, s')) : P s' := by
    simpa [he] using calls i s h
  have hd := dispatch_spec d publish (Q := P) logs (fun i s e s' => hc i s) (fun i s s' => hc i s) logs
    steps steps h
  cases ho : (d.dispatch publish s).1.outcome <;> rw [ho] at hd <;> exact hd

end Keeps

end Telemetry.Dispatcher
