import Mathlib.Data.List.Forall2
import Telemetry.Metric
import Telemetry.Proofs.Accumulator
/-!
# Histories of a metric

A metric is tracked, read and harvested, in any order and at any readings of the clock. Main
statement: each of its answers is what its kind says of the values tracked since the harvest before,
and only tracks change the time that is kept of the last one.
-/
namespace Telemetry

theorem Kind.Summarises.eq_zero {kind : Kind} {x : Float} (h : kind.Summarises [] x) : x = 0 := by
  cases kind with
  | min => exact h.of_nil rfl
  | max => exact h.of_nil rfl
  | _ => exact h

namespace Metric

/-- A metric that has tracked these values since it was empty. -/
def ofValues (labels : Labels) (kind : Kind) (values : List Float)
    (lastUpdate : Option Nat) : Metric :=
  { labels, kind, accumulator := values.foldl .track (.empty kind), lastUpdate }

section OfValues

variable (labels : Labels) (kind : Kind) (values : List Float) (lastUpdate : Option Nat)

theorem track_ofValues (now : WallTime) (value : Float) :
    (ofValues labels kind values lastUpdate).track now value =
      ofValues labels kind (values ++ [value]) (some (stamp now)) := by
  rw [ofValues, ofValues, List.foldl_append]
  rfl

theorem reset_ofValues :
    (ofValues labels kind values lastUpdate).reset = ofValues labels kind [] lastUpdate := by
  rw [reset, ofValues, Accumulator.reset_foldl_track, Accumulator.reset_empty]
  rfl

theorem summarises_get_ofValues :
    kind.Summarises values (ofValues labels kind values lastUpdate).get :=
  Accumulator.summarises_get values kind

end OfValues

/-- Something done with a metric. -/
inductive Action where
  | track (now : WallTime) (value : Float)
  | add (now : WallTime) (amount : Float)
  | increment (now : WallTime)
  | get
  | getAndReset

namespace Action

/-- The value that is tracked, after the reading of the clock. -/
def tracked? : Action → Option (WallTime × Float)
  | track now value => some (now, value)
  | add now amount => some (now, amount)
  | increment now => some (now, 1)
  | get => none
  | getAndReset => none

/-- The values tracked since the last harvest, after an action that finds `values`. -/
def window (values : List Float) : Action → List Float
  | getAndReset => []
  | a => values ++ (a.tracked?.map (·.2)).toList

end Action

/-- The metric after an action, and the number that is answered. -/
def act (m : Metric) : Action → Metric × Option Float
  | .track now value => (m.track now value, none)
  | .add now amount => (m.add now amount, none)
  | .increment now => (m.increment now, none)
  | .get => (m, some m.get)
  | .getAndReset => (m.getAndReset.2, some m.getAndReset.1)

def run (m : Metric) (history : List Action) : Metric :=
  history.foldl (fun m a => (m.act a).1) m

@[simp] theorem labels_act (m : Metric) (a : Action) : (m.act a).1.labels = m.labels := by
  cases a <;> rfl

@[simp] theorem kind_act (m : Metric) (a : Action) : (m.act a).1.kind = m.kind := by
  cases a <;> rfl

@[simp] theorem labels_run (m : Metric) (history : List Action) :
    (m.run history).labels = m.labels := by
  induction history generalizing m with
  | nil => rfl
  | cons a history ih => exact (ih _).trans (m.labels_act a)

@[simp] theorem kind_run (m : Metric) (history : List Action) : (m.run history).kind = m.kind := by
  induction history generalizing m with
  | nil => rfl
  | cons a history ih => exact (ih _).trans (m.kind_act a)

theorem run_concat (m : Metric) (history : List Action) (a : Action) :
    m.run (history ++ [a]) = ((m.run history).act a).1 :=
  List.foldl_concat ..

/-- All answers over a history, in order. -/
def answers : Metric → List Action → List Float
  | _, [] => []
  | m, a :: history => (m.act a).2.toList ++ answers (m.act a).1 history

/-- The values tracked since the last harvest, after a history that begins with `values`. -/
def openWindow (values : List Float) (history : List Action) : List Float :=
  history.foldl Action.window values

/-- For each answer over a history that begins with `values`, the values tracked since the harvest
before it. -/
def windows : List Float → List Action → List (List Float)
  | _, [] => []
  | values, a :: history =>
    match a.tracked? with
    | some _ => windows (a.window values) history
    | none => values :: windows (a.window values) history

/-- A new metric, which may have a first value. -/
def create (labels : Labels) (kind : Kind) : Option (WallTime × Float) → Metric
  | none => new labels kind
  | some (now, value) => withValue labels kind now value

theorem create_eq (labels : Labels) (kind : Kind) (first : Option (WallTime × Float)) :
    create labels kind first =
      ofValues labels kind (first.map (·.2)).toList (first.map fun t => stamp t.1) := by
  cases first <;> rfl

section Run

variable (labels : Labels) (kind : Kind) (values : List Float) (lastUpdate : Option Nat)

theorem act_ofValues (a : Action) : ((ofValues labels kind values lastUpdate).act a).1 =
    ofValues labels kind (a.window values) ((a.tracked?.map fun t => stamp t.1).or lastUpdate) := by
  cases a with
  | track now value => exact track_ofValues labels kind values lastUpdate now value
  | add now amount => exact track_ofValues labels kind values lastUpdate now amount
  | increment now => exact track_ofValues labels kind values lastUpdate now 1
  | get =>
    have hw : Action.get.window values = values := List.append_nil values
    rw [hw]
    rfl
  | getAndReset => exact reset_ofValues labels kind values lastUpdate

theorem run_ofValues (history : List Action) : ∃ last,
    (ofValues labels kind values lastUpdate).run history =
      ofValues labels kind (openWindow values history) last := by
  induction history generalizing values lastUpdate with
  | nil => exact ⟨lastUpdate, rfl⟩
  | cons a history ih =>
    rw [run, List.foldl_cons, act_ofValues]
    exact ih _ _

/-- An action that tracks nothing answers the current number. -/
theorem answer_eq (m : Metric) (a : Action) :
    (m.act a).2 = if a.tracked?.isSome then none else some m.get := by
  cases a <;> rfl

theorem summarises_answers (history : List Action) :
    List.Forall₂ kind.Summarises (windows values history)
      ((ofValues labels kind values lastUpdate).answers history) := by
  induction history generalizing values lastUpdate with
  | nil => exact .nil
  | cons a history ih =>
    rw [windows, answers, act_ofValues, answer_eq]
    cases a.tracked? with
    | some t => exact ih _ _
    | none => exact .cons (summarises_get_ofValues labels kind values lastUpdate) (ih _ _)

theorem lastUpdate_run (m : Metric) (history : List Action) : (m.run history).lastUpdate =
    ((history.filterMap Action.tracked?).getLast?.map fun t => stamp t.1).or m.lastUpdate := by
  induction history generalizing m with
  | nil => rfl
  | cons a history ih =>
    have ha : (m.act a).1.lastUpdate = (a.tracked?.map fun t => stamp t.1).or m.lastUpdate := by
      cases a <;> rfl
    rw [run, List.foldl_cons]
    refine (ih _).trans ?_
    -- the first action only counts if nothing is tracked after it
    rw [ha, List.filterMap_cons]
    cases a.tracked? with
    | none => rfl
    | some t =>
      rw [List.getLast?_cons]
      cases (history.filterMap Action.tracked?).getLast? <;> rfl

end Run

/-- Each answer of a metric is what its kind says of the values tracked since the harvest before it,
and zero if there are none. Reading it changes no later answer, and the time of the last update is
that of the last track. -/
theorem answers_summarise (labels : Labels) (kind : Kind) (first : Option (WallTime × Float))
    (history : List Action) :
    let m := create labels kind first
    List.Forall₂ (fun values x => kind.Summarises values x ∧ (values = [] → x = 0))
        (windows (first.map (·.2)).toList history) (m.answers history) ∧
      (∀ later, (m.run history).answers (.get :: later) =
        (m.run history).get :: (m.run history).answers later) ∧
      (m.run history).lastUpdate =
        (first.toList ++ history.filterMap Action.tracked?).getLast?.map fun t => stamp t.1 := by
  intro m
  refine ⟨?_, fun later => rfl, ?_⟩
  · have hs := summarises_answers labels kind (first.map (·.2)).toList
      (first.map fun t => stamp t.1) history
    rw [← create_eq] at hs
    exact hs.imp fun values x hx => ⟨hx, fun hn => (hn ▸ hx).eq_zero⟩
  · have hm : m.lastUpdate = first.map fun t => stamp t.1 :=
      congrArg lastUpdate (create_eq labels kind first)
    rw [lastUpdate_run, hm, List.getLast?_append, Option.map_or]
    cases first <;> rfl

/-- After a harvest the greatest value starts anew. -/
example : (new (.ofName "depth") .max).answers
    [.track 0 (-3), .getAndReset, .get, .track 0 (-5), .get, .getAndReset] = [-3, 0, -5, -5] := rfl

end Metric

end Telemetry
