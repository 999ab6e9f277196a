import Telemetry.Dispatcher.Script
import Telemetry.Proofs.Dispatcher.Calls
/-!
# What a dispatcher goes through

A run of a dispatcher is a script: it lets time pass, dispatches batches and shuts the dispatcher
down, and the calls of its batches do the same in turn, to any depth. Main statement: at every
moment of every run the circuit is explained by what happened to it.
-/
namespace Telemetry

namespace Script

variable (d : Dispatcher)

/-- The scene after a batch was dispatched and listed among the nested ones. -/
def afterBatch (calls : Nat → Script) (s : Scene (List Nested)) : Scene (List Nested) :=
  let (report, s) := d.dispatch (fun i => run d (calls i)) s
  { s with world := s.world ++ [⟨report, d.circuit? s, s.stopped⟩] }

theorem run_dispatch (calls : Nat → Script) (rest : Script) (s : Scene (List Nested)) :
    run d (.dispatch calls rest) s = run d rest (afterBatch d calls s) := rfl

/-- The script comes through the scene `u` when it is run from `s`, be it between its own actions or
in the midst of a call that it gives rise to. -/
inductive Passes : Script → Scene (List Nested) → Scene (List Nested) → Prop where
  | here {script : Script} {s : Scene (List Nested)} : Passes script s s
  | advance {t : Duration} {rest : Script} {s u : Scene (List Nested)}
    (h : Passes rest (s.advance t) u) : Passes (.advance t rest) s u
  | shutdown {rest : Script} {s u : Scene (List Nested)}
    (h : Passes rest (d.shutdown s) u) : Passes (.shutdown rest) s u
  | within {calls : Nat → Script} {rest : Script} {s v u : Scene (List Nested)} {i : Nat}
    (hv : (d.callScenes (fun i => run d (calls i)) s)[i]? = some v) (h : Passes (calls i) v u) :
    Passes (.dispatch calls rest) s u
  | after {calls : Nat → Script} {rest : Script} {s u : Scene (List Nested)}
    (h : Passes rest (afterBatch d calls s) u) : Passes (.dispatch calls rest) s u

/-- A script comes through the scene in which it ends. -/
theorem passes_run (script : Script) (s : Scene (List Nested)) :
    Passes d script s (run d script s).2 := by
  induction script generalizing s with
  | answer result => exact .here
  | advance t rest ih => exact .advance (ih _)
  | dispatch calls rest _ ih => exact .after (ih _)
  | shutdown rest ih => exact .shutdown (ih _)

/-- A property of scenes that nothing a script does can break. -/
structure Stable (P : Scene (List Nested) → Prop) : Prop where
  log : ∀ s events, P s → P (s.log events)
  step : ∀ s config step, d.breaker = some config → step.time = s.now → P s →
    P (s.step d.name config step)
  world : ∀ s world, P s → P { s with world }
  stop : ∀ s, P s → P { s with stopped := true }
  advance : ∀ s t, P s → P (s.advance t)

namespace Stable

variable {d} {P : Scene (List Nested) → Prop} (st : Stable d P)
include st

theorem shutdown {s : Scene (List Nested)} (h : P s) : P (d.shutdown s) := by
  rw [Dispatcher.shutdown]
  split
  · exact h
  · exact st.stop _ (st.log s _ h)

theorem run {script : Script} {s : Scene (List Nested)} (h : P s) : P (script.run d s).2 := by
  induction script generalizing s with
  | answer result => exact h
  | advance t rest ih => exact ih (st.advance s t h)
  | dispatch calls rest ihc ih =>
    rw [run_dispatch]
    apply ih
    apply st.world
    exact Dispatcher.dispatch_keeps st.log (fun i s hs => ihc i hs) st.step h
  | shutdown rest ih => exact ih (st.shutdown h)

theorem afterBatch {calls : Nat → Script} {s : Scene (List Nested)} (h : P s) :
    P (afterBatch d calls s) :=
  st.world _ _ (Dispatcher.dispatch_keeps st.log (fun _ _ hs => st.run hs) st.step h)

/-- What nothing can break holds at every moment of a run. -/
theorem passes {script : Script} {s u : Scene (List Nested)} (hp : Passes d script s u)
    (h : P s) : P u := by
  induction hp with
  | here => exact h
  | advance _ ih => exact ih (st.advance _ _ h)
  | shutdown _ ih => exact ih (st.shutdown h)
  | within hv _ ih =>
    apply ih
    exact Dispatcher.callScenes_keep st.log (fun _ _ hs => st.run hs) st.step h _
      (List.mem_of_getElem? hv)
  | after _ ih => exact ih (st.afterBatch h)

end Stable

end Script

/-- The circuit of the scene is what its steps lead to, and none of them is after the present. -/
structure Scene.Faithful {σ : Type} (config : BreakerConfig) (s : Scene σ) : Prop where
  circuit_eq : s.circuit = Circuit.replay config s.steps
  time_le : ∀ step ∈ s.steps, step.time ≤ s.now

namespace Scene.Faithful

variable {σ : Type} {config : BreakerConfig} {s : Scene σ}

theorem step (h : s.Faithful config) (name : String) {step : Circuit.Step}
    (ht : step.time = s.now) : (s.step name config step).Faithful config where
  circuit_eq := by
    simp only [Scene.step, Circuit.replay_append, h.circuit_eq]
  time_le := by
    intro other hm
    rcases List.mem_append.1 hm with hm | hm
    · exact h.time_le other hm
    · rw [List.mem_singleton.1 hm, ht]
      exact Nat.le_refl _

theorem explained (h : s.Faithful config) : s.circuit.Explained config s.now s.steps := by
  rw [h.circuit_eq]
  exact Circuit.explained_replay h.time_le

/-- A circuit holds a call back while it is open and its wait is not over. -/
theorem enter?_eq_none_iff (h : s.Faithful config) :
    s.circuit.enter? config s.now = none ↔
      ∃ since, s.circuit = .opened since ∧ s.now < since + config.connectWait := by
  rw [Circuit.enter?_eq_none_iff]
  refine exists_congr fun since => and_congr_right fun hc => ?_
  have he := h.explained
  rw [hc] at he
  obtain ⟨-, before, after, -, -, hs, -⟩ := he
  exact Nat.sub_lt_iff_lt_add' hs

theorem stable {d : Dispatcher} (hd : d.breaker = some config) :
    Script.Stable d (Scene.Faithful config) where
  log _ _ h := ⟨h.circuit_eq, h.time_le⟩
  step s other step hb ht h := by
    obtain rfl : config = other := Option.some.inj (hd.symm.trans hb)
    exact h.step d.name ht
  world _ _ h := ⟨h.circuit_eq, h.time_le⟩
  stop _ h := ⟨h.circuit_eq, h.time_le⟩
  advance s t h := ⟨h.circuit_eq, fun step hm => Nat.le_add_right_of_le (h.time_le step hm)⟩

theorem passes {d : Dispatcher} (hd : d.breaker = some config) {script : Script}
    {start : Instant} {u : Scene (List Script.Nested)}
    (hp : script.Passes d { world := [], now := start } u) : u.Faithful config :=
  (stable hd).passes hp ⟨rfl, by simp⟩

end Scene.Faithful

namespace Script

/-- At every moment of a run the counts of the circuit and the time it opened are those of the
outcomes recorded since it took on its phase, phases follow each other in four ways only, and a
batch is rejected, without a call and without a trace, just when it finds the circuit open and its
wait not over. -/
theorem explained_of_passes {d : Dispatcher} {config : BreakerConfig}
    (hd : d.breaker = some config) {script : Script} {start : Instant} {u : Scene (List Nested)}
    (hp : Passes d script { world := [], now := start } u) :
    u.circuit.Explained config u.now u.steps ∧
    (∀ earlier last, earlier ++ [last] <+: u.steps →
      (Circuit.replay config earlier).phase ≠ (Circuit.replay config (earlier ++ [last])).phase →
      (Circuit.replay config earlier).phase.Follows
        (Circuit.replay config (earlier ++ [last])).phase) ∧
    ∀ publish : Nat → Call (List Nested),
      ((d.dispatch publish u).1.outcome = .rejected ↔
        ∃ since, u.circuit = .opened since ∧ u.now < since + config.connectWait) ∧
      ((d.dispatch publish u).1.outcome = .rejected →
        d.dispatch publish u = (⟨.rejected, 0⟩, u.log [.circuitRejected d.name])) := by
  have hu : u.Faithful config := .passes hd hp
  refine ⟨hu.explained, fun earlier last _ => Circuit.phase_follows config earlier last, ?_⟩
  intro publish
  have hr := Dispatcher.dispatch_outcome_eq_rejected_iff publish hd (s := u)
  refine ⟨hr.trans hu.enter?_eq_none_iff, fun h => ?_⟩
  exact Dispatcher.dispatch_of_enter?_eq_none publish hd (hr.1 h)

/-- A breaker that opens at the first failure and closes at the second success. -/
def quickBreaker : BreakerConfig where
  successThreshold := 2
  failureThreshold := 1
  connectWait := 5

/-- A batch in whose call one batch fails and, after the wait, another goes through. -/
def probing : Script :=
  .dispatch
    (fun _ => .dispatch (fun _ => .answer (.error (.other "down")))
      (.advance 5 (.dispatch (fun _ => .answer (.ok ())) (.answer (.ok ())))))
    (.answer (.ok ()))

theorem explained_in_probing :
    ∃ u, Passes ⟨"backend", 0, some quickBreaker⟩ probing { world := [], now := 3 } u ∧
      u.circuit = .halfOpen 1 ∧
      u.steps = [.enter 3, .enter 3, .record 3 false, .enter 8, .record 8 true] ∧
      u.circuit.Explained quickBreaker u.now u.steps := by
  have hp : Passes ⟨"backend", 0, some quickBreaker⟩ probing { world := [], now := 3 } _ :=
    .within (i := 0) rfl (.after (.advance (.after .here)))
  exact ⟨_, hp, rfl, rfl, (explained_of_passes rfl hp).1⟩

end Script

end Telemetry
