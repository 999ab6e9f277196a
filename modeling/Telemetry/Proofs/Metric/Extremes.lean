import Telemetry.Proofs.Metric.History
/-!
# Extremes and NaN

The extreme of some numbers does not depend on their order, and NaN counts for nothing beside a
number. Main statement: a metric of a least or a greatest value keeps to this unless NaN is the
first value of its window, which no later value can replace.
-/
namespace Telemetry

namespace Floats

/-- Two floats are the same number: both zeros are one, and NaN is like NaN. -/
def SameNumber (x y : Float) : Prop :=
  (x == y) = true ∨ x.isNaN = true ∧ y.isNaN = true

instance (x y : Float) : Decidable (SameNumber x y) :=
  inferInstanceAs (Decidable (_ ∨ _))

theorem SameNumber.isNaN_eq {x y : Float} (h : SameNumber x y) : x.isNaN = y.isNaN := by
  rcases h with h | ⟨hx, hy⟩
  · have hx : ¬ x.isNaN = true := fun hx => not_beq_of_isNaN (.inl hx) h
    have hy : ¬ y.isNaN = true := fun hy => not_beq_of_isNaN (.inr hy) h
    rw [Bool.eq_false_iff.2 hx, Bool.eq_false_iff.2 hy]
  · rw [hx, hy]

/-- Of two numbers one is picked that is related to both, and a number rather than NaN. -/
structure Picks (r : Float → Float → Prop) (pick : Float → Float → Float) : Prop where
  nan_nan : ∀ {x y}, x.isNaN = true → y.isNaN = true → (pick x y).isNaN = true
  nan_left : ∀ {x y}, x.isNaN = true → y.isNaN = false → pick x y = y
  nan_right : ∀ {x y}, x.isNaN = false → y.isNaN = true → pick x y = x
  numbers : ∀ {x y}, x.isNaN = false → y.isNaN = false →
    (pick x y = x ∨ pick x y = y) ∧ r (pick x y) x ∧ r (pick x y) y

theorem Picks.eq_or_eq {r : Float → Float → Prop} {pick : Float → Float → Float} (hp : Picks r pick)
    {x y : Float} (h : (pick x y).isNaN = false) : pick x y = x ∨ pick x y = y := by
  cases hx : x.isNaN with
  | true =>
    cases hy : y.isNaN with
    | true => exact absurd (hp.nan_nan hx hy) (Bool.eq_false_iff.1 h)
    | false => exact .inr (hp.nan_left hx hy)
  | false =>
    cases hy : y.isNaN with
    | true => exact .inl (hp.nan_right hx hy)
    | false => exact (hp.numbers hx hy).1

/-- The better of two numbers, or the one that is a number; the first if none beats the other. -/
def better (beats : Float → Float → Bool) (x y : Float) : Float :=
  if x.isNaN then y else if y.isNaN then x else if beats y x then y else x

/-- What is left of some values when one is picked at a time; zero if there are none. -/
def pickAll (pick : Float → Float → Float) (values : List Float) : Float :=
  (values.foldl (fun best v => some (best.elim v (pick · v))) none).getD 0

theorem pickAll_cons (pick : Float → Float → Float) (v : Float) (vs : List Float) :
    pickAll pick (v :: vs) = vs.foldl pick v := by
  have hf (w : Float) : vs.foldl (fun best v => some (best.elim v (pick · v))) (some w) =
      some (vs.foldl pick w) := by
    induction vs generalizing w with
    | nil => rfl
    | cons v vs ih => exact ih (pick w v)
  rw [pickAll, List.foldl_cons]
  exact congrArg (Option.getD · 0) (hf v)

/-- All numbers among the values are related to `x`, which is one of them; without numbers it is
NaN. -/
structure Extremal (r : Float → Float → Prop) (values : List Float) (x : Float) : Prop where
  nan : (∀ v ∈ values, v.isNaN = true) → x.isNaN = true
  number : ∀ v ∈ values, v.isNaN = false → x.isNaN = false ∧ x ∈ values ∧ r x v

/-- The first of the values is NaN. -/
def nanFirst (values : List Float) : Bool :=
  values.head?.any Float.isNaN

end Floats

open Floats

/-- The kind keeps values that beat the others, which are all related to it. -/
inductive Kind.Seeks : Kind → (Float → Float → Bool) → (Float → Float → Prop) → Prop where
  | least : Seeks .min (fun a b => a < b) (· ≤ ·)
  | greatest : Seeks .max (fun a b => a > b) (· ≥ ·)

namespace Kind.Seeks

variable {kind : Kind} {beats : Float → Float → Bool} {r : Float → Float → Prop} {x y : Float}
  {values values' : List Float} (hk : kind.Seeks beats r)
include hk

theorem decides : Accumulator.Decides beats r := by
  cases hk with
  | least => exact Accumulator.decides_lt
  | greatest => exact Accumulator.decides_gt

theorem not_beats (h : x.isNaN = true ∨ y.isNaN = true) : ¬ beats x y = true := by
  cases hk with
  | least => simpa using not_lt_of_isNaN h
  | greatest => simpa using not_lt_of_isNaN h.symm

theorem beq (hx : x.isNaN = false) (hy : y.isNaN = false) (h : r x y) (h' : r y x) :
    (x == y) = true := by
  cases hk with
  | least => exact beq_of_le_of_le hx hy h h'
  | greatest => exact beq_of_le_of_le hx hy h' h

/-- What the accumulator of the kind reports. -/
theorem get_eq (values : List Float) : (values.foldl Accumulator.track (.empty kind)).get =
    (values.foldl (Accumulator.extreme beats) none).getD 0 := by
  cases hk with
  | least => exact congrArg Accumulator.get (Accumulator.foldl_track_least values none)
  | greatest => exact congrArg Accumulator.get (Accumulator.foldl_track_greatest values none)

theorem get_nil : (([] : List Float).foldl Accumulator.track (.empty kind)).get = 0 :=
  hk.get_eq []

theorem picks_better : Picks r (better beats) where
  nan_nan hx hy := by rwa [better, if_pos hx]
  nan_left hx _ := by rw [better, if_pos hx]
  nan_right hx hy := by rw [better, if_neg (Bool.eq_false_iff.1 hx), if_pos hy]
  numbers {x y} hx hy := by
    rw [better, if_neg (Bool.eq_false_iff.1 hx), if_neg (Bool.eq_false_iff.1 hy)]
    split
    · rename_i h
      exact ⟨.inr rfl, hk.decides.won hy hx h, hk.decides.refl hy⟩
    · rename_i h
      exact ⟨.inl rfl, hk.decides.refl hx, hk.decides.lost hy hx h⟩

/-- Only the numbers among the values count, in whatever order. -/
theorem sameNumber (h : Extremal r values x) (h' : Extremal r values' y)
    (hv : ∀ v, v.isNaN = false → (v ∈ values ↔ v ∈ values')) : SameNumber x y := by
  by_cases hn : ∀ v ∈ values, v.isNaN = true
  · refine .inr ⟨h.nan hn, h'.nan ?_⟩
    intro v hm
    by_contra hf
    exact hf (hn v ((hv v (Bool.eq_false_iff.2 hf)).2 hm))
  · push Not at hn
    obtain ⟨v, hm, hf⟩ := hn
    have hf := Bool.eq_false_iff.2 hf
    obtain ⟨hx, hmx, -⟩ := h.number v hm hf
    obtain ⟨hy, hmy, -⟩ := h'.number v ((hv v hf).1 hm) hf
    have hxy : r x y := (h.number y ((hv y hy).2 hmy) hy).2.2
    have hyx : r y x := (h'.number x ((hv x hx).1 hmx) hx).2.2
    exact .inl (hk.beq hx hy hxy hyx)

variable {pick : Float → Float → Float} (hp : Picks r pick)
include hp

theorem related_pick {v : Float} (hv : v = x ∨ v = y) (hf : v.isNaN = false) :
    (pick x y).isNaN = false ∧ r (pick x y) v := by
  cases hx : x.isNaN with
  | true =>
    obtain rfl : v = y :=
      hv.resolve_left (by rintro rfl; exact absurd hx (Bool.eq_false_iff.1 hf))
    rw [hp.nan_left hx hf]
    exact ⟨hf, hk.decides.refl hf⟩
  | false =>
    cases hy : y.isNaN with
    | true =>
      obtain rfl : v = x :=
        hv.resolve_right (by rintro rfl; exact absurd hy (Bool.eq_false_iff.1 hf))
      rw [hp.nan_right hf hy]
      exact ⟨hf, hk.decides.refl hf⟩
    | false =>
      obtain ⟨he, hrx, hry⟩ := hp.numbers hx hy
      constructor
      · rcases he with he | he <;> rwa [he]
      · rcases hv with rfl | rfl
        · exact hrx
        · exact hry

/-- The extreme of some values is left when one of the first two is picked. -/
theorem extremal_of_pick {v w : Float} {vs : List Float} (h : Extremal r (pick v w :: vs) x) :
    Extremal r (v :: w :: vs) x where
  nan hn := by
    have hv : v.isNaN = true := hn v (by simp)
    have hw : w.isNaN = true := hn w (by simp)
    apply h.nan
    intro u hu
    rcases List.mem_cons.1 hu with rfl | hu
    · exact hp.nan_nan hv hw
    · exact hn u (by simp [hu])
  number u hu hf := by
    have hx : x.isNaN = false ∧ x ∈ pick v w :: vs ∧ r x u := by
      by_cases hvs : u ∈ vs
      · exact h.number u (List.mem_cons_of_mem _ hvs) hf
      · have huvw : u = v ∨ u = w := by simpa [hvs] using hu
        obtain ⟨hpn, hpu⟩ := hk.related_pick hp huvw hf
        obtain ⟨hx, hm, hxp⟩ := h.number (pick v w) List.mem_cons_self hpn
        exact ⟨hx, hm, hk.decides.trans hx hpn hf hxp hpu⟩
    refine ⟨hx.1, ?_, hx.2.2⟩
    rcases List.mem_cons.1 hx.2.1 with rfl | hm
    · rcases hp.eq_or_eq hx.1 with he | he <;> simp [he]
    · simp [hm]

theorem extremal_pickAll (hne : values ≠ []) : Extremal r values (pickAll pick values) := by
  cases values with
  | nil => exact absurd rfl hne
  | cons v vs =>
    rw [pickAll_cons]
    clear hne
    induction vs generalizing v with
    | nil =>
      refine ⟨fun hn => hn v List.mem_cons_self, ?_⟩
      intro w hw hf
      rw [List.mem_singleton.1 hw] at hf ⊢
      exact ⟨hf, List.mem_cons_self, hk.decides.refl hf⟩
    | cons w vs ih => exact hk.extremal_of_pick hp (ih (pick v w))

omit hp

/-- A number is only replaced by one that beats it. -/
theorem foldl_extreme {v : Float} (hv : v.isNaN = false) (vs : List Float) :
    vs.foldl (Accumulator.extreme beats) (some v) = some (vs.foldl (better beats) v) := by
  induction vs generalizing v with
  | nil => rfl
  | cons w vs ih =>
    have hb : Accumulator.extreme beats (some v) w = some (better beats v w) := by
      rw [Accumulator.extreme, better, if_neg (Bool.eq_false_iff.1 hv)]
      cases hw : w.isNaN with
      | true => rw [if_neg (hk.not_beats (.inl hw)), if_pos rfl]
      | false =>
        rw [if_neg Bool.false_ne_true]
        split <;> rfl
    have hn : (better beats v w).isNaN = false := (hk.related_pick hk.picks_better (.inl rfl) hv).1
    rw [List.foldl_cons, hb, ih hn, List.foldl_cons]

/-- Nothing replaces NaN. -/
theorem foldl_extreme_of_isNaN {v : Float} (hv : v.isNaN = true) (vs : List Float) :
    vs.foldl (Accumulator.extreme beats) (some v) = some v := by
  induction vs with
  | nil => rfl
  | cons w vs ih => rwa [List.foldl_cons, Accumulator.extreme, if_neg (hk.not_beats (.inr hv))]

theorem extremal_get (h : nanFirst values = false) (hne : values ≠ []) :
    Extremal r values (values.foldl Accumulator.track (.empty kind)).get := by
  cases values with
  | nil => exact absurd rfl hne
  | cons v vs =>
    have hv : v.isNaN = false := h
    have hx := hk.extremal_pickAll hk.picks_better hne
    rw [pickAll_cons] at hx
    rwa [hk.get_eq, List.foldl_cons, Accumulator.extreme, hk.foldl_extreme hv]

/-- NaN is reported just if it came first. -/
theorem isNaN_get (values : List Float) :
    (values.foldl Accumulator.track (.empty kind)).get.isNaN = nanFirst values := by
  cases values with
  | nil =>
    rw [hk.get_nil]
    decide
  | cons v vs =>
    cases hv : v.isNaN with
    | true =>
      rw [hk.get_eq, List.foldl_cons, Accumulator.extreme, hk.foldl_extreme_of_isNaN hv]
      rfl
    | false =>
      have hx : Extremal r (v :: vs) _ := hk.extremal_get hv (List.cons_ne_nil v vs)
      exact (hx.number v List.mem_cons_self hv).1.trans hv.symm

/-- Values in another order leave the same number, unless NaN comes first in one order only. -/
theorem sameNumber_get_iff (h : values.Perm values') :
    SameNumber (values.foldl Accumulator.track (.empty kind)).get
        (values'.foldl Accumulator.track (.empty kind)).get ↔
      nanFirst values = nanFirst values' := by
  constructor
  · intro hs
    rw [← hk.isNaN_get, hs.isNaN_eq, hk.isNaN_get]
  · intro hn
    cases hv : nanFirst values with
    | true => exact .inr ⟨(hk.isNaN_get values).trans hv, (hk.isNaN_get values').trans (hn ▸ hv)⟩
    | false =>
      by_cases hne : values = []
      · subst hne
        rw [← h.nil_eq, hk.get_nil]
        decide
      · have hne' : values' ≠ [] := fun he => hne (h.trans (he ▸ .nil)).eq_nil
        exact hk.sameNumber (hk.extremal_get hv hne) (hk.extremal_get (hn ▸ hv) hne')
          fun _ _ => h.mem_iff

include hp in
/-- The number that is left by picking is reported, unless NaN came first among numbers. -/
theorem sameNumber_pickAll_iff (values : List Float) :
    SameNumber (values.foldl Accumulator.track (.empty kind)).get (pickAll pick values) ↔
      (nanFirst values = true → ∀ v ∈ values, v.isNaN = true) := by
  by_cases hne : values = []
  · subst hne
    rw [hk.get_nil]
    exact iff_of_true (.inl (by decide : ((0 : Float) == 0) = true))
      fun h => absurd h Bool.false_ne_true
  · have hx := hk.extremal_pickAll hp hne
    constructor
    · intro hs hv v hm
      by_contra hf
      have hn := (hx.number v hm (Bool.eq_false_iff.2 hf)).1
      rw [← hs.isNaN_eq, hk.isNaN_get, hv] at hn
      cases hn
    · intro h
      cases hv : nanFirst values with
      | true => exact .inr ⟨(hk.isNaN_get values).trans hv, hx.nan (h hv)⟩
      | false => exact hk.sameNumber (hk.extremal_get hv hne) hx fun _ _ => Iff.rfl

end Kind.Seeks

namespace Metric

/-- A metric of a least or a greatest value reports the number that is left when one of its values
is picked at a time, unless NaN came first among numbers. Then it reports NaN, and in no other way
does its answer depend on the order of the values. -/
theorem reports_extreme_iff {kind : Kind} {beats : Float → Float → Bool}
    {r : Float → Float → Prop} {pick : Float → Float → Float} (hk : kind.Seeks beats r)
    (hp : Picks r pick) (labels : Labels) (history : List Action) :
    let values := openWindow [] history
    let x := ((new labels kind).run history).get
    (SameNumber x (pickAll pick values) ↔
        (nanFirst values = true → ∀ v ∈ values, v.isNaN = true)) ∧
      x.isNaN = nanFirst values ∧
      ∀ history', values.Perm (openWindow [] history') →
        (SameNumber x ((new labels kind).run history').get ↔
          nanFirst values = nanFirst (openWindow [] history')) := by
  intro values x
  have hget (history : List Action) : ((new labels kind).run history).get =
      ((openWindow [] history).foldl Accumulator.track (.empty kind)).get := by
    obtain ⟨last, hr⟩ := run_ofValues labels kind [] none history
    exact congrArg get hr
  have hx : x = (values.foldl Accumulator.track (.empty kind)).get := hget history
  refine ⟨?_, ?_, ?_⟩
  · rw [hx]
    exact hk.sameNumber_pickAll_iff hp values
  · rw [hx]
    exact hk.isNaN_get values
  · intro history' h
    rw [hx, hget]
    exact hk.sameNumber_get_iff h

/-- NaN after a number counts for nothing. -/
theorem reports_least_around_nan :
    let history : List Action := [.track 0 3, .track 0 (0 / 0), .track 0 1]
    let other : List Action := [.track 0 1, .get, .track 0 (0 / 0), .track 0 3]
    let m := new (.ofName "latency") .min
    Kind.min.Seeks (fun a b => a < b) (· ≤ ·) ∧ Picks (· ≤ ·) (better fun a b => a < b) ∧
      (openWindow [] history).Perm (openWindow [] other) ∧
      SameNumber (m.run history).get 1 ∧ SameNumber (m.run history).get (m.run other).get := by
  intro history other m
  have hk : Kind.min.Seeks (fun a b => a < b) (· ≤ ·) := .least
  have hw : (openWindow [] history).Perm (openWindow [] other) := (List.reverse_perm _).symm
  have hx := reports_extreme_iff hk hk.picks_better (.ofName "latency") history
  exact ⟨hk, hk.picks_better, hw, hx.1.2 fun h => absurd h (by decide),
    (hx.2.2 other hw).2 (by decide)⟩

/-- NaN before a number is reported in its place, and not if it comes after it. -/
theorem not_reports_extreme :
    let m := new (.ofName "latency") .min
    let first := m.run [.track 0 (0 / 0), .track 0 3]
    let last := m.run [.track 0 3, .track 0 (0 / 0)]
    Picks (· ≤ ·) (better fun a b => a < b) ∧
      ¬ SameNumber first.get (pickAll (better fun a b => a < b) [0 / 0, 3]) ∧
      ¬ SameNumber first.get last.get := by
  refine ⟨Kind.Seeks.least.picks_better, ?_, ?_⟩
  · decide
  · decide

end Metric

end Telemetry
