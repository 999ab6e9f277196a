import Telemetry.Client.Slot
import Telemetry.Proofs.Differences
import Telemetry.Proofs.Dispatcher.Calls
/-!
# What a publisher of a client is given and keeps

Choosing snapshots for a publisher depends on its filter and on what it was given before. A dispatch
changes nothing but the publisher and its circuit, and a publisher to memory keeps a batch just when
it was published.
-/
namespace Telemetry

namespace Publisher

@[simp] theorem config_setFailing (failing : Bool) (p : Publisher) :
    (p.setFailing failing).config = p.config := by
  cases p <;> rfl

theorem config_recordAll (p : PrometheusPublisher) (batch : List Snapshot) :
    (p.recordAll batch).1.config = p.config := by
  induction batch generalizing p with
  | nil => rfl
  | cons s ss ih =>
    rw [PrometheusPublisher.recordAll, ih]
    rfl

@[simp] theorem config_publish (p : Publisher) (batch : List Snapshot) :
    (p.publish batch).2.1.config = p.config := by
  cases p with
  | memory p =>
    simp only [publish, MemoryPublisher.publish]
    split <;> rfl
  | prometheus p => exact config_recordAll p batch
  | graphite p network written =>
    rw [publish]
    split <;> rfl

end Publisher

namespace Slot

/-- The slot that a publisher with an accepted configuration is given. -/
def fresh [Regex.Engine] (config : AgentConfig) (p : Publisher) : Slot where
  publisher := p
  filter := .chain p.config.filters.1
  diff := if p.config.resetCounters && config.counterReset == .publisher then some {} else none

theorem ofPublisher_of_valid [Regex.Engine] (config : AgentConfig) {p : Publisher}
    (h : p.config.validate = .ok ()) : (ofPublisher config p).2 = .ok (fresh config p) := by
  rw [ofPublisher, h]
  rfl

variable {s : Slot}

/-- Snapshots as they are given to the publisher if `earlier` ones came before. -/
def given (s : Slot) (earlier ss : List Snapshot) : List Snapshot :=
  if s.diff.isSome then Snapshot.differencesAfter earlier ss else ss

theorem given_append (earlier ss ts : List Snapshot) :
    s.given earlier (ss ++ ts) = s.given earlier ss ++ s.given (earlier ++ ss) ts := by
  by_cases h : s.diff.isSome
  · simp only [given, h, if_true, Snapshot.differencesAfter_append]
  · simp only [given, h, Bool.false_eq_true, if_false]

@[simp] theorem given_nil (earlier : List Snapshot) : s.given earlier [] = [] := by
  rw [given, Snapshot.differencesAfter_nil, ite_self]

@[simp] theorem length_given (earlier ss : List Snapshot) :
    (s.given earlier ss).length = ss.length := by
  rw [given, apply_ite List.length, Snapshot.length_differencesAfter, ite_self]

@[simp] theorem flatten_batches (ss : List Snapshot) : (s.batches ss).flatten = ss :=
  flatten_chunks _ ss

/-- The differ, if there is one, has seen these snapshots. -/
def Knows (s : Slot) (seen : List Snapshot) : Prop :=
  ∀ d ∈ s.diff, d.Remembers seen

theorem fresh_knows [Regex.Engine] (config : AgentConfig) (p : Publisher) :
    (fresh config p).Knows [] := by
  intro d hd
  simp only [fresh] at hd
  split at hd
  · rw [← Option.some.inj hd]
    exact CounterDiff.remembers_nil
  · simp at hd

/-- The slots differ in no more than their circuits, the states of their publishers and what their
differs have seen. -/
structure Alike (s t : Slot) : Prop where
  config : s.config = t.config
  filter : s.filter = t.filter
  differs : s.diff.isSome = t.diff.isSome

theorem Alike.refl (s : Slot) : s.Alike s := ⟨rfl, rfl, rfl⟩

theorem Alike.trans {s t u : Slot} (h : s.Alike t) (h' : t.Alike u) : s.Alike u :=
  ⟨h.config.trans h'.config, h.filter.trans h'.filter, h.differs.trans h'.differs⟩

theorem Alike.given_eq {s t : Slot} (h : s.Alike t) : s.given = t.given := by
  funext earlier ss
  rw [given, given, h.differs]

theorem Alike.batches_eq {s t : Slot} (h : s.Alike t) : s.batches = t.batches := by
  funext ss
  rw [batches, batches, h.config]

section Select

variable {seen : List Snapshot} (ss : List Snapshot)

theorem select_alike : (s.select ss).2.Alike s := by
  rw [select]
  split
  · exact .refl s
  · rename_i d hd
    exact ⟨rfl, rfl, by simp [hd]⟩

theorem select_publisher : (s.select ss).2.publisher = s.publisher := by
  rw [select]
  split <;> rfl

theorem Knows.select_fst (h : s.Knows seen) :
    (s.select ss).1 = s.given seen (ss.filter s.filter.passes) := by
  cases hd : s.diff with
  | none => simp [select, given, hd]
  | some d =>
    simp only [select, given, hd, Option.isSome_some, if_true]
    exact ((h d hd).applyAll _).1

theorem Knows.select_snd (h : s.Knows seen) :
    (s.select ss).2.Knows (seen ++ ss.filter s.filter.passes) := by
  intro d' hd'
  cases hd : s.diff with
  | none => simp [select, hd] at hd'
  | some d =>
    simp only [select, hd, Option.mem_some_iff] at hd'
    rw [← hd']
    exact ((h d hd).applyAll _).2

end Select

section Dispatch

variable (now : Instant) (batch : List Snapshot) (interrupt : Option Nat)

theorem dispatch_config : (s.dispatch now batch interrupt).2.2.config = s.config := by
  apply Dispatcher.dispatch_keeps (P := fun scene : Scene Publisher =>
    scene.world.config = s.publisher.config)
  · intro scene events h
    exact h
  · intro i scene h
    rw [call]
    simpa using h
  · intro scene config step _ _ h
    exact h
  · rfl

theorem dispatch_alike : (s.dispatch now batch interrupt).2.2.Alike s :=
  ⟨dispatch_config now batch interrupt, rfl, rfl⟩

/-- The publisher writes to memory and has kept these batches. -/
def Holds (s : Slot) (kept : List (List Snapshot)) : Prop :=
  ∃ p, s.publisher = .memory p ∧ p.batches.toList = kept

private def SceneHolds (kept : List (List Snapshot)) (scene : Scene Publisher) : Prop :=
  ∃ p, scene.world = .memory p ∧ p.batches.toList = kept

private theorem call_failed {kept : List (List Snapshot)} {i : Nat} {scene scene' : Scene Publisher}
    {e : PublishError} (h : SceneHolds kept scene)
    (hc : call batch interrupt i scene = (.error e, scene')) : SceneHolds kept scene' := by
  obtain ⟨p, hw, hk⟩ := h
  simp only [call, hw, Publisher.publish, MemoryPublisher.publish] at hc
  split at hc
  · cases hc
    exact ⟨_, rfl, hk⟩
  · cases hc

private theorem call_succeeded {kept : List (List Snapshot)} {i : Nat}
    {scene scene' : Scene Publisher} (h : SceneHolds kept scene)
    (hc : call batch interrupt i scene = (.ok (), scene')) :
    SceneHolds (kept ++ [batch]) scene' := by
  obtain ⟨p, hw, hk⟩ := h
  simp only [call, hw, Publisher.publish, MemoryPublisher.publish] at hc
  split at hc
  · cases hc
  · cases hc
    exact ⟨_, rfl, by rw [Array.toList_push, hk]⟩

/-- A batch is kept once and whole if it is published, and not at all if it is not. -/
theorem Holds.dispatch {kept : List (List Snapshot)} (h : s.Holds kept) :
    (s.dispatch now batch interrupt).2.2.Holds
      (kept ++ if (s.dispatch now batch interrupt).1.outcome = .published then [batch] else []) := by
  have hd : Dispatcher.Concluded (SceneHolds kept) (SceneHolds (kept ++ [batch])) _ _ :=
    Dispatcher.dispatch_spec s.dispatcher (call batch interrupt) (fun _ _ h => h)
      (fun _ _ _ _ => call_failed batch interrupt) (fun _ _ _ => call_succeeded batch interrupt)
      (fun _ _ h => h) (fun _ _ _ _ _ h => h) (fun _ _ _ _ _ h => h)
      (s := { world := s.publisher, now, circuit := s.circuit }) h
  rw [Slot.dispatch]
  generalize s.dispatcher.dispatch (call batch interrupt)
    { world := s.publisher, now, circuit := s.circuit } = concluded at hd
  obtain ⟨⟨outcome, calls⟩, scene⟩ := concluded
  cases outcome with
  | published => exact hd
  | failed | rejected =>
    rw [if_neg (by simp), List.append_nil]
    exact hd

end Dispatch

section Interrupt

variable (d : Dispatcher) (batch : List Snapshot) {k : Nat}

/-- Nothing is attempted again after the call that is interrupted. -/
theorem attempt_interrupted_now (left : Nat) (scene : Scene Publisher) :
    (d.attempt (call batch (some k)) left k scene).1.2 = k + 1 := by
  have hs : (call batch (some k) k scene).2.stopped = true := by simp [call]
  rw [Dispatcher.attempt.eq_def]
  rcases hc : call batch (some k) k scene with ⟨⟨e⟩ | ⟨⟩, after⟩
  · have ha : after.stopped = true := by simpa [hc] using hs
    cases left with
    | zero => simp only [hc]
    | succ left => simp only [hc, ha, if_true]
  · simp only [hc]

/-- Attempts that are interrupted in the call number `k` come to the same as others up to it, and to
no call after it. -/
theorem attempt_interrupted (left : Nat) {made : Nat} {scene : Scene Publisher}
    (hs : scene.stopped = false) (hm : made ≤ k) :
    (d.attempt (call batch (some k)) left made scene).1.2 =
        min (d.attempt (call batch none) left made scene).1.2 (k + 1) ∧
      ((d.attempt (call batch none) left made scene).1.2 ≤ k →
        d.attempt (call batch (some k)) left made scene =
          d.attempt (call batch none) left made scene) := by
  by_cases hk : made = k
  · subst hk
    have hl : made < (d.attempt (call batch none) left made scene).1.2 := by
      rw [Dispatcher.attempt_calls, Dispatcher.attemptScenes.eq_def, List.length_cons]
      omega
    rw [attempt_interrupted_now]
    exact ⟨by omega, fun h => absurd hl (by omega)⟩
  · have same : call batch (some k) made scene = call batch none made scene := by
      simp [call, Ne.symm hk]
    have hn : (call batch none made scene).2.stopped = false := by simp [call, hs]
    rw [Dispatcher.attempt.eq_def, Dispatcher.attempt.eq_def d (call batch none)]
    rcases hc : call batch none made scene with ⟨⟨e⟩ | ⟨⟩, after⟩
    · have ha : after.stopped = false := by simpa [hc] using hn
      cases left with
      | zero =>
        simp only [same, hc]
        exact ⟨by omega, fun _ => trivial⟩
      | succ left =>
        simp only [same, hc, ha, Bool.false_eq_true, if_false]
        exact attempt_interrupted left ha (by omega)
    · simp only [same, hc]
      exact ⟨by omega, fun _ => trivial⟩

theorem dispatch_interrupted {scene : Scene Publisher} (hs : scene.stopped = false) :
    (d.dispatch (call batch (some k)) scene).1.calls =
        min (d.dispatch (call batch none) scene).1.calls (k + 1) ∧
      ((d.dispatch (call batch none) scene).1.calls ≤ k →
        d.dispatch (call batch (some k)) scene = d.dispatch (call batch none) scene) := by
  cases hb : d.breaker with
  | none =>
    obtain ⟨hc, he⟩ := attempt_interrupted d batch d.retries hs (Nat.zero_le k)
    rw [d.dispatch_of_breaker_eq_none _ hb, d.dispatch_of_breaker_eq_none _ hb]
    simp only [Dispatcher.conclude_calls]
    exact ⟨hc, fun h => by rw [he h]⟩
  | some config =>
    cases hi : scene.circuit.enter? config scene.now with
    | none =>
      rw [d.dispatch_of_enter?_eq_none _ hb hi, d.dispatch_of_enter?_eq_none _ hb hi]
      exact ⟨(Nat.zero_min _).symm, fun _ => rfl⟩
    | some c =>
      have hn : (scene.step d.name config (.enter scene.now)).stopped = false := hs
      obtain ⟨hc, he⟩ := attempt_interrupted d batch d.retries hn (Nat.zero_le k)
      rw [d.dispatch_of_enter?_eq_some _ hb hi, d.dispatch_of_enter?_eq_some _ hb hi]
      simp only [Dispatcher.conclude_calls]
      exact ⟨hc, fun h => by rw [he h]⟩

variable (s) (now : Instant)

/-- A dispatch that is interrupted in the call number `k` comes to the end of that call, if there is
one, and makes none after it. -/
theorem calls_dispatch_interrupted (k : Nat) :
    (s.dispatch now batch (some k)).1.calls =
      min (s.dispatch now batch none).1.calls (k + 1) :=
  (dispatch_interrupted s.dispatcher batch rfl).1

theorem dispatch_interrupted_of_le (h : (s.dispatch now batch none).1.calls ≤ k) :
    s.dispatch now batch (some k) = s.dispatch now batch none := by
  rw [dispatch, (dispatch_interrupted s.dispatcher batch rfl).2 h]
  rfl

end Interrupt

theorem setFailing_alike (failing : Bool) :
    Alike { s with publisher := s.publisher.setFailing failing } s :=
  ⟨Publisher.config_setFailing failing s.publisher, rfl, rfl⟩

theorem Holds.setFailing {kept : List (List Snapshot)} (h : s.Holds kept) (failing : Bool) :
    Holds { s with publisher := s.publisher.setFailing failing } kept := by
  obtain ⟨p, hp, hk⟩ := h
  exact ⟨{ p with failing }, by rw [hp]; rfl, hk⟩

end Slot

end Telemetry
