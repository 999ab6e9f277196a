import Mathlib.Data.Nat.Find
import Mathlib.Order.Bounds.Defs
import Telemetry.Proofs.Dispatcher.Moments
/-!
# How many calls are made for a batch

The calls for a batch, were none of them the last, are made one after the other in scenes that each
call hands to the next. Main statement: a batch that is not rejected is done with after the first
call that succeeds, that uses up the retries, or after which the dispatcher is found shut down; and
once shut down a dispatcher stays so.
-/
namespace Telemetry

namespace Dispatcher

section Endless

variable {σ : Type} (d : Dispatcher) (publish : Nat → Call σ)

/-- The scene in which call number `i` is made, from `s` on, if every call is followed by another.
The wait between two calls changes nothing in a scene, however long it is. -/
def endless (s : Scene σ) : Nat → Scene σ
  | 0 => s
  | i + 1 =>
    match publish i (endless s i) with
    | (.ok (), s') => s'
    | (.error e, s') => s'.log [.retrying d.name (i + 1) d.retries e.message]

/-- Call number `i` ends the attempts if it is made. -/
def Ends (s : Scene σ) (i : Nat) : Prop :=
  (publish i (d.endless publish s i)).1 = .ok () ∨ i = d.retries ∨
    (publish i (d.endless publish s i)).2.stopped = true

/-- What some attempts come to of which call number `k` is the last. -/
structure EndedBy (s : Scene σ) (k : Nat)
    (made : (Except PublishError Duration × Nat) × Scene σ) : Prop where
  calls : made.1.2 = k + 1
  isOk_iff : made.1.1.isOk = true ↔ (publish k (d.endless publish s k)).1 = .ok ()
  world : made.2.world = (publish k (d.endless publish s k)).2.world
  stopped : made.2.stopped = (publish k (d.endless publish s k)).2.stopped

variable {d publish} {s : Scene σ} {left made : Nat}

theorem endedBy_of_ends (h : d.Ends publish s made) (hl : made + left = d.retries) :
    d.EndedBy publish s made (d.attempt publish left made (d.endless publish s made)) := by
  rw [Ends] at h
  rw [attempt]
  cases hp : publish made (d.endless publish s made) with
  | mk result s' =>
    cases result with
    | ok => exact ⟨rfl, by simp [hp, Except.isOk, Except.toBool], by rw [hp], by rw [hp]⟩
    | error e =>
      rw [hp] at h
      cases left with
      | zero => exact ⟨rfl, by simp [hp, Except.isOk, Except.toBool], by rw [hp], by rw [hp]⟩
      | succ left =>
        have hs : s'.stopped = true := by
          rcases h with h | h | h
          · cases h
          · omega
          · exact h
        simp only [hs, if_true]
        exact ⟨rfl, by simp [hp, Except.isOk, Except.toBool], by rw [hp]; rfl, by rw [hp]; rfl⟩

theorem attempt_of_not_ends (h : ¬ d.Ends publish s made) (hl : made + left = d.retries) :
    ∃ left', left = left' + 1 ∧ d.attempt publish left made (d.endless publish s made) =
      d.attempt publish left' (made + 1) (d.endless publish s (made + 1)) := by
  rw [Ends, not_or, not_or] at h
  obtain ⟨hok, hr, hs⟩ := h
  obtain ⟨left', rfl⟩ : ∃ left', left = left' + 1 := ⟨left - 1, by omega⟩
  refine ⟨left', rfl, ?_⟩
  rw [attempt, endless]
  cases hp : publish made (d.endless publish s made) with
  | mk result s' =>
    rw [hp] at hok hs
    cases result with
    | ok => exact absurd rfl hok
    | error e => simp only [if_neg hs]

/-- The attempts are ended by the first call that ends them. -/
theorem endedBy_attempt {k : Nat} (hk : d.Ends publish s k) (hm : made ≤ k)
    (hn : ∀ i, made ≤ i → i < k → ¬ d.Ends publish s i) (hl : made + left = d.retries) :
    d.EndedBy publish s k (d.attempt publish left made (d.endless publish s made)) := by
  induction left generalizing made with
  | zero =>
    have hr : d.Ends publish s made := .inr (.inl hl)
    obtain rfl : made = k := by
      by_contra hne
      exact hn made (Nat.le_refl _) (by omega) hr
    exact endedBy_of_ends hr hl
  | succ left ih =>
    by_cases he : d.Ends publish s made
    · obtain rfl : made = k := by
        by_contra hne
        exact hn made (Nat.le_refl _) (by omega) he
      exact endedBy_of_ends he hl
    · obtain ⟨left', hleft, ha⟩ := attempt_of_not_ends he hl
      obtain rfl : left = left' := Nat.succ.inj hleft
      have hne : made ≠ k := fun h => he (h ▸ hk)
      rw [ha]
      exact ih (by omega) (fun i hi => hn i (by omega)) (by omega)

end Endless

section Dispatch

variable {σ : Type} (d : Dispatcher) (publish : Nat → Call σ)

/-- The scene in which the first call for a batch is made if the batch is not rejected. -/
def opening (s : Scene σ) : Scene σ :=
  match d.breaker with
  | none => s
  | some config => s.step d.name config (.enter s.now)

/-- What call number `i` for a batch answers and leaves behind, were none before it the last. -/
def called (s : Scene σ) (i : Nat) : Except PublishError Unit × Scene σ :=
  publish i (d.endless publish (d.opening s) i)

/-- Nothing is left to do for a batch after call number `i`: the call succeeded, there are no
retries, they are used up, or the dispatcher is shut down by the time the call has returned. -/
def Settles (retry : RetryConfig) (s : Scene σ) (i : Nat) : Prop :=
  (d.called publish s i).1 = .ok () ∨ retry.enabled = false ∨ i = retry.attempts ∨
    (d.called publish s i).2.stopped = true

variable {d publish} {s : Scene σ}

theorem observe_keeps (d : Dispatcher) (config : BreakerConfig)
    (result : Except PublishError Duration) (s : Scene σ) :
    (d.observe config result s).world = s.world ∧
      (d.observe config result s).stopped = s.stopped := by
  cases result with
  | error e => exact ⟨rfl, rfl⟩
  | ok elapsed =>
    rw [observe]
    split <;> exact ⟨rfl, rfl⟩

theorem conclude_keeps (d : Dispatcher) (result : Except PublishError Duration) (calls : Nat)
    (s : Scene σ) : (d.conclude result calls s).2.world = s.world ∧
      (d.conclude result calls s).2.stopped = s.stopped := by
  cases result <;> exact ⟨rfl, rfl⟩

theorem conclude_outcome_eq_published_iff (d : Dispatcher) (result : Except PublishError Duration)
    (calls : Nat) (s : Scene σ) :
    (d.conclude result calls s).1.outcome = .published ↔ result.isOk = true := by
  cases result <;> simp [conclude, Except.isOk, Except.toBool]

/-- A batch that is not rejected is concluded with what its attempts came to. -/
theorem exists_conclude_of_not_rejected (h : (d.dispatch publish s).1.outcome ≠ .rejected) :
    let made := d.attempt publish d.retries 0 (d.opening s)
    ∃ v, d.dispatch publish s = d.conclude made.1.1 made.1.2 v ∧ v.world = made.2.world ∧
      v.stopped = made.2.stopped := by
  intro made
  cases hb : d.breaker with
  | none =>
    have ho : d.opening s = s := by
      rw [opening, hb]
    refine ⟨made.2, ?_, rfl, rfl⟩
    rw [dispatch_of_breaker_eq_none publish hb]
    simp only [made, ho]
  | some config =>
    have ho : d.opening s = s.step d.name config (.enter s.now) := by
      rw [opening, hb]
    cases he : s.circuit.enter? config s.now with
    | none => exact absurd ((dispatch_outcome_eq_rejected_iff publish hb).2 he) h
    | some c =>
      refine ⟨d.observe config made.1.1 made.2, ?_, observe_keeps ..⟩
      rw [dispatch_of_enter?_eq_some publish hb he]
      simp only [made, ho]

section Settles

variable {name : String} {retry : RetryConfig} {breaker : BreakerConfig} {k : Nat}

theorem settles_of_ends {i : Nat}
    (h : (ofConfig name retry breaker).Ends publish ((ofConfig name retry breaker).opening s) i) :
    (ofConfig name retry breaker).Settles publish retry s i := by
  rcases h with h | h | h
  · exact .inl h
  · cases he : retry.enabled with
    | false => exact .inr (.inl he)
    | true =>
      rw [ofConfig, he, if_pos rfl] at h
      exact .inr (.inr (.inl h))
  · exact .inr (.inr (.inr h))

/-- The first call that leaves nothing to do is one that ends the attempts: without retries it is
call number zero. -/
theorem ends_of_isLeast
    (h : IsLeast {i | (ofConfig name retry breaker).Settles publish retry s i} k) :
    (ofConfig name retry breaker).Ends publish ((ofConfig name retry breaker).opening s) k := by
  cases he : retry.enabled with
  | false =>
    have hzero : k ≤ 0 := h.2 (.inr (.inl he))
    have hr : (ofConfig name retry breaker).retries = 0 := by
      simp [ofConfig, he]
    exact .inr (.inl (by omega))
  | true =>
    have hr : (ofConfig name retry breaker).retries = retry.attempts := by
      simp [ofConfig, he]
    rcases h.1 with h | h | h | h
    · exact .inl h
    · rw [he] at h
      cases h
    · exact .inr (.inl (hr ▸ h))
    · exact .inr (.inr h)

theorem exists_isLeast_settles :
    ∃ k, IsLeast {i | (ofConfig name retry breaker).Settles publish retry s i} k := by
  have h : ∃ i, (ofConfig name retry breaker).Settles publish retry s i :=
    ⟨retry.attempts, .inr (.inr (.inl rfl))⟩
  classical
  exact ⟨Nat.find h, Nat.find_spec h, fun _ hi => Nat.find_min' h hi⟩

end Settles

@[simp] theorem stopped_shutdown (d : Dispatcher) (s : Scene σ) :
    (d.shutdown s).stopped = true := by
  rw [shutdown]
  split
  · assumption
  · rfl

theorem circuit_shutdown (d : Dispatcher) (s : Scene σ) :
    (d.shutdown s).circuit = s.circuit ∧ (d.shutdown s).steps = s.steps := by
  rw [shutdown]
  split <;> exact ⟨rfl, rfl⟩

theorem stable_stopped (d : Dispatcher) : Script.Stable d (fun u => u.stopped = true) where
  log := fun _ _ h => h
  step := fun _ _ _ _ _ h => h
  world := fun _ _ h => h
  stop := fun _ _ => rfl
  advance := fun _ _ h => h

/-- A batch that is not rejected is done with after the first call that leaves nothing to do, and
published just if that call succeeds. A shutdown leaves the circuit alone, and whatever a script
does afterwards, the dispatcher stays shut down. -/
theorem settled_by_first_call (name : String) (retry : RetryConfig) (breaker : BreakerConfig)
    (publish : Nat → Call σ) (s : Scene σ) :
    let d := ofConfig name retry breaker
    ((d.dispatch publish s).1.outcome ≠ .rejected →
      ∃ k, IsLeast {i | d.Settles publish retry s i} k ∧
        (d.dispatch publish s).1.calls = k + 1 ∧
        ((d.dispatch publish s).1.outcome = .published ↔ (d.called publish s k).1 = .ok ()) ∧
        (d.dispatch publish s).2.world = (d.called publish s k).2.world ∧
        (d.dispatch publish s).2.stopped = (d.called publish s k).2.stopped) ∧
    ((d.shutdown s).stopped = true ∧ (d.shutdown s).circuit = s.circuit ∧
      (d.shutdown s).steps = s.steps) ∧
    ∀ (script : Script) (u v : Scene (List Script.Nested)), u.stopped = true →
      Script.Passes d script u v → v.stopped = true := by
  intro d
  refine ⟨fun h => ?_, ⟨stopped_shutdown d s, circuit_shutdown d s⟩,
    fun _ _ _ hu hp => (stable_stopped d).passes hp hu⟩
  obtain ⟨k, hk⟩ : ∃ k, IsLeast {i | d.Settles publish retry s i} k := exists_isLeast_settles
  have hn (i : Nat) (_ : 0 ≤ i) (hi : i < k) : ¬ d.Ends publish (d.opening s) i :=
    fun he => Nat.not_le.2 hi (hk.2 (settles_of_ends he))
  have made := endedBy_attempt (ends_of_isLeast hk) (Nat.zero_le k) hn (Nat.zero_add d.retries)
  obtain ⟨v, hv, hworld, hstopped⟩ := exists_conclude_of_not_rejected h
  obtain ⟨hw, hs⟩ := conclude_keeps d (d.attempt publish d.retries 0 (d.opening s)).1.1
    (d.attempt publish d.retries 0 (d.opening s)).1.2 v
  refine ⟨k, hk, ?_, ?_, ?_, ?_⟩
  · rw [hv, conclude_calls]
    exact made.calls
  · rw [hv, conclude_outcome_eq_published_iff]
    exact made.isOk_iff
  · rw [hv, hw, hworld]
    exact made.world
  · rw [hv, hs, hstopped]
    exact made.stopped

end Dispatch

private def lasting : RetryConfig := { attempts := 5, wait := 0 }

/-- A call that fails, one during which the call of another batch shuts the dispatcher down, and
calls that would succeed. -/
private def interfering : Nat → Script
  | 0 => .answer (.error (.other "down"))
  | 1 => .dispatch (fun _ => .shutdown (.answer (.error (.other "down"))))
      (.answer (.error (.other "down")))
  | _ => .answer (.ok ())

theorem settled_by_nested_shutdown :
    let d := ofConfig "backend" lasting Script.quickBreaker
    let publish := fun i => Script.run d (interfering i)
    let s : Scene (List Script.Nested) := { world := [] }
    let script : Script := .dispatch interfering (.answer (.ok ()))
    (d.dispatch publish s).1 = ⟨.failed, 2⟩ ∧ IsLeast {i | d.Settles publish lasting s i} 1 ∧
      (Script.run d script (d.shutdown s)).2.stopped = true := by
  intro d publish s script
  obtain ⟨hcalls, ⟨hstopped, -⟩, hlast⟩ :=
    settled_by_first_call "backend" lasting Script.quickBreaker publish s
  have hr : (d.dispatch publish s).1 = ⟨.failed, 2⟩ := by decide +kernel
  have hne : (d.dispatch publish s).1.outcome ≠ .rejected := by
    rw [hr]
    decide
  obtain ⟨k, hk, hn, -⟩ := hcalls hne
  obtain rfl : k = 1 := by
    have hn : (d.dispatch publish s).1.calls = k + 1 := hn
    rw [hr] at hn
    exact (Nat.succ.inj hn).symm
  exact ⟨hr, hk, hlast script _ _ hstopped (Script.passes_run d script _)⟩

end Dispatcher

end Telemetry
