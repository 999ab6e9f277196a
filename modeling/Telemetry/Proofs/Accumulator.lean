import Telemetry.Accumulator
import Telemetry.Proofs.Float.Order
/-!
# What an accumulator reports

An accumulator keeps a summary only, and reports what its kind says of all values tracked: their
sum, the least or the greatest of them, their mean, or the latest.
-/
namespace Telemetry

open Floats

/-- A number that is none of the values only if there are none, and then zero. Nothing is said if
some value is NaN. -/
structure IsExtreme (r : Float → Float → Prop) (values : List Float) (x : Float) : Prop where
  of_nil : values = [] → x = 0
  of_ne_nil : values ≠ [] → (∀ v ∈ values, v.isNaN = false) → x ∈ values ∧ ∀ v ∈ values, r x v

/-- What a kind of metric says of values that were tracked in this order. -/
def Kind.Summarises (k : Kind) (values : List Float) (x : Float) : Prop :=
  match k with
  | .count => x = values.foldl (· + ·) 0
  | .min => IsExtreme (· ≤ ·) values x
  | .max => IsExtreme (· ≥ ·) values x
  | .avg => x = if values = [] then 0 else values.foldl (· + ·) 0 / Float.ofNat values.length
  | _ => x = values.getLast?.getD 0

namespace Accumulator

variable (values : List Float)

theorem foldl_track_sum (total : Float) :
    values.foldl track (sum total) = sum (values.foldl (· + ·) total) := by
  induction values generalizing total with
  | nil => rfl
  | cons v vs ih => rw [List.foldl_cons, track, ih, List.foldl_cons]

theorem foldl_track_mean (total : Float) (count : ℕ) :
    values.foldl track (mean total count) =
      mean (values.foldl (· + ·) total) (count + values.length) := by
  induction values generalizing total count with
  | nil => rfl
  | cons v vs ih =>
    rw [List.foldl_cons, track, ih, List.foldl_cons, List.length_cons]
    congr 1
    omega

theorem foldl_track_latest (x : Float) :
    values.foldl track (latest x) = latest (values.getLast?.getD x) := by
  induction values generalizing x with
  | nil => rfl
  | cons v vs ih =>
    rw [List.foldl_cons, track, ih, List.getLast?_cons]
    rfl

theorem foldl_track_least (current : Option Float) :
    values.foldl track (least current) =
      least (values.foldl (extreme fun a b => a < b) current) := by
  induction values generalizing current with
  | nil => rfl
  | cons v vs ih => rw [List.foldl_cons, track, ih, List.foldl_cons]

theorem foldl_track_greatest (current : Option Float) :
    values.foldl track (greatest current) =
      greatest (values.foldl (extreme fun a b => a > b) current) := by
  induction values generalizing current with
  | nil => rfl
  | cons v vs ih => rw [List.foldl_cons, track, ih, List.foldl_cons]

/-- Beating decides an order of all numbers but NaN. -/
structure Decides (beats : Float → Float → Bool) (r : Float → Float → Prop) : Prop where
  refl : ∀ {x}, x.isNaN = false → r x x
  trans : ∀ {x y z}, x.isNaN = false → y.isNaN = false → z.isNaN = false → r x y → r y z → r x z
  won : ∀ {x y}, x.isNaN = false → y.isNaN = false → beats x y = true → r x y
  lost : ∀ {x y}, x.isNaN = false → y.isNaN = false → beats x y ≠ true → r y x

theorem decides_lt : Decides (fun a b => a < b) (· ≤ ·) where
  refl := le_self
  trans := Floats.le_trans
  won hx hy h := le_of_lt hx hy (by simpa using h)
  lost hx hy h := le_of_not_lt hx hy (by simpa using h)

theorem decides_gt : Decides (fun a b => a > b) (· ≥ ·) where
  refl := le_self
  trans hx hy hz h h' := Floats.le_trans hz hy hx h' h
  won hx hy h := le_of_lt hy hx (by simpa using h)
  lost hx hy h := le_of_not_lt hy hx (by simpa using h)

variable {beats : Float → Float → Bool} {r : Float → Float → Prop}

/-- Of two numbers one wins, and it is related to both. -/
theorem Decides.extreme (hd : Decides beats r) {current v : Float} (hc : current.isNaN = false)
    (hv : v.isNaN = false) : ∃ next, extreme beats (some current) v = some next ∧
      (next = current ∨ next = v) ∧ r next current ∧ r next v := by
  by_cases hb : beats v current = true
  · refine ⟨v, ?_, .inr rfl, hd.won hv hc hb, hd.refl hv⟩
    rw [Accumulator.extreme, if_pos hb]
  · refine ⟨current, ?_, .inl rfl, hd.refl hc, hd.lost hv hc hb⟩
    rw [Accumulator.extreme, if_neg hb]

theorem Decides.foldl_extreme (hd : Decides beats r) {current : Float}
    (hc : current.isNaN = false) (hv : ∀ v ∈ values, v.isNaN = false) :
    ∃ x ∈ current :: values, values.foldl (Accumulator.extreme beats) (some current) = some x ∧
      ∀ v ∈ current :: values, r x v := by
  induction values generalizing current with
  | nil =>
    refine ⟨current, List.mem_cons_self, rfl, ?_⟩
    intro v hm
    rw [List.mem_singleton.1 hm]
    exact hd.refl hc
  | cons v vs ih =>
    have hn : v.isNaN = false := hv v List.mem_cons_self
    have hs : ∀ w ∈ vs, w.isNaN = false := fun w hw => hv w (List.mem_cons_of_mem v hw)
    obtain ⟨next, he, hm, hrc, hrv⟩ := hd.extreme hc hn
    have hnext : next.isNaN = false := by
      rcases hm with rfl | rfl
      · exact hc
      · exact hn
    obtain ⟨x, hx, hf, hr⟩ := ih hnext hs
    have hxn : x.isNaN = false := by
      rcases List.mem_cons.1 hx with rfl | hx
      · exact hnext
      · exact hs x hx
    have hxnext : r x next := hr next List.mem_cons_self
    refine ⟨x, ?_, ?_, ?_⟩
    · rcases List.mem_cons.1 hx with rfl | hx
      · rcases hm with rfl | rfl
        · exact List.mem_cons_self
        · exact List.mem_cons_of_mem current List.mem_cons_self
      · exact List.mem_cons_of_mem current (List.mem_cons_of_mem v hx)
    · rw [List.foldl_cons, he, hf]
    · intro w hw
      rcases List.mem_cons.1 hw with rfl | hw
      · exact hd.trans hxn hnext hc hxnext hrc
      · rcases List.mem_cons.1 hw with rfl | hw
        · exact hd.trans hxn hnext hn hxnext hrv
        · exact hr w (List.mem_cons_of_mem next hw)

theorem Decides.isExtreme (hd : Decides beats r) :
    IsExtreme r values ((values.foldl (Accumulator.extreme beats) none).getD 0) where
  of_nil h := by
    rw [h]
    rfl
  of_ne_nil hne hv := by
    cases values with
    | nil => exact absurd rfl hne
    | cons v vs =>
      have hn : v.isNaN = false := hv v List.mem_cons_self
      obtain ⟨x, hx, hf, hr⟩ := hd.foldl_extreme vs hn fun w hw => hv w (List.mem_cons_of_mem v hw)
      rw [List.foldl_cons, Accumulator.extreme, hf]
      exact ⟨hx, hr⟩

/-- What an accumulator reports is what its kind says of the values tracked since it was empty. -/
theorem summarises_get (k : Kind) :
    k.Summarises values (values.foldl track (empty k)).get := by
  cases k with
  | count =>
    rw [empty, foldl_track_sum]
    rfl
  | min =>
    rw [empty, foldl_track_least]
    exact decides_lt.isExtreme values
  | max =>
    rw [empty, foldl_track_greatest]
    exact decides_gt.isExtreme values
  | avg =>
    rw [empty, foldl_track_mean, get, Nat.zero_add]
    exact ite_congr (propext List.length_eq_zero_iff) (fun _ => rfl) fun _ => rfl
  | _ =>
    rw [empty, foldl_track_latest]
    · rfl
    all_goals simp

end Accumulator

end Telemetry
