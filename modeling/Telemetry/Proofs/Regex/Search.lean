import Mathlib.Data.List.Basic
import Telemetry.Regex.Search
/-!
# What a search finds

A way through a program is a row of steps from some address to the accepting one, along the
characters of a text. Main statement: a search finds something exactly if such a way leads from the
start of the program, at some place of the text. Marks and preferences play no part in this.
-/
namespace Telemetry.Regex

/-- A place in a text: the character before it and all that comes behind it. -/
structure Cursor where
  before : Option Char
  rest : List Char

/-- A step goes on to an address without taking a character. -/
inductive Inst.Moves : Inst → Cursor → Nat → Prop where
  | jump (x : Cursor) (next : Nat) : Moves (.jump next) x next
  | first (x : Cursor) (first second : Nat) : Moves (.fork first second) x first
  | second (x : Cursor) (first second : Nat) : Moves (.fork first second) x second
  | mark (x : Cursor) (slot next : Nat) : Moves (.mark slot next) x next
  | require {x : Cursor} {condition : Look} (next : Nat)
    (h : condition.holds x.before x.rest.head? = true) : Moves (.require condition next) x next

/-- A way of so many steps leads from an address to the accepting step. -/
inductive Accepts (p : Program) : Nat → Nat → Cursor → Prop where
  | accept {pc : Nat} (x : Cursor) (h : p[pc]? = some .accept) : Accepts p 0 pc x
  | move {n pc next : Nat} {i : Inst} {x : Cursor} (h : p[pc]? = some i) (hm : i.Moves x next)
    (ha : Accepts p n next x) : Accepts p (n + 1) pc x
  | consume {n pc next : Nat} {cls : CharClass} {before : Option Char} {c : Char} {cs : List Char}
    (h : p[pc]? = some (.consume cls next)) (hc : cls.mem c = true)
    (ha : Accepts p n next ⟨some c, cs⟩) : Accepts p (n + 1) pc ⟨before, c :: cs⟩

/-- The way that waits is led to the accepting step by the next character. -/
def Waiting.Accepts (p : Program) (x : Cursor) (w : Waiting) : Prop :=
  ∃ c cs n, x.rest = c :: cs ∧ w.cls.mem c = true ∧ Regex.Accepts p n w.next ⟨some c, cs⟩

/-- A match ends at the place or some way that waits there comes to the accepting step. -/
def Place.Accepts (p : Program) (x : Cursor) (place : Place) : Prop :=
  place.found.isSome = true ∨ ∃ w ∈ place.waiting, w.Accepts p x

def Thread.Accepts (p : Program) (x : Cursor) (t : Thread) : Prop :=
  ∃ n, Regex.Accepts p n t.pc x

section Settle

variable {p : Program} {x : Cursor} {pos : Nat}

theorem Place.accepts_reverse (waiting : List Waiting) :
    (⟨waiting.reverse, none⟩ : Place).Accepts p x ↔ ∃ w ∈ waiting, w.Accepts p x := by
  simp [Place.Accepts]

theorem Thread.Accepts.of_move {t u : Thread} {i : Inst} (h : p[t.pc]? = some i)
    (hm : i.Moves x u.pc) (hu : u.Accepts p x) : t.Accepts p x := by
  obtain ⟨n, ha⟩ := hu
  exact ⟨n + 1, .move h hm ha⟩

/-- The ways that go on from a step in its stead lead to the accepting step only if it does. -/
theorem accepts_of_moved (us : List Thread) {t : Thread} {ts : List Thread}
    {waiting : List Waiting} {i : Inst} (hi : p[t.pc]? = some i) (hm : ∀ u ∈ us, i.Moves x u.pc)
    (h : (∃ u ∈ us ++ ts, u.Accepts p x) ∨ ∃ w ∈ waiting, w.Accepts p x) :
    (∃ u ∈ t :: ts, u.Accepts p x) ∨ ∃ w ∈ waiting, w.Accepts p x := by
  rcases h with ⟨u, hu, ha⟩ | h
  · rcases List.mem_append.1 hu with hu | hu
    · exact .inl ⟨t, List.mem_cons_self, .of_move hi (hm u hu) ha⟩
    · exact .inl ⟨u, List.mem_cons_of_mem t hu, ha⟩
  · exact .inr h

theorem Thread.Accepts.of_consume {t : Thread} {cls : CharClass} {next : Nat} {slots : Slots}
    (h : p[t.pc]? = some (.consume cls next)) (hw : Waiting.Accepts p x ⟨cls, next, slots⟩) :
    t.Accepts p x := by
  obtain ⟨c, cs, n, hx, hc, ha⟩ := hw
  obtain ⟨before, rest⟩ := x
  obtain rfl : rest = c :: cs := hx
  exact ⟨n + 1, .consume h hc ha⟩

/-- What is found out at a place comes from the ways that were there. -/
theorem sound_settle {fuel : Nat} {ts : List Thread} {seen : Array Bool} {waiting : List Waiting}
    (h : (settle p pos x.before x.rest.head? fuel ts seen waiting).Accepts p x) :
    (∃ t ∈ ts, t.Accepts p x) ∨ ∃ w ∈ waiting, w.Accepts p x := by
  induction fuel generalizing ts seen waiting with
  | zero => exact .inr ((Place.accepts_reverse waiting).1 h)
  | succ fuel ih =>
    cases ts with
    | nil => exact .inr ((Place.accepts_reverse waiting).1 h)
    | cons t ts =>
      have later (h : (∃ u ∈ ts, u.Accepts p x) ∨ ∃ w ∈ waiting, w.Accepts p x) :
          (∃ u ∈ t :: ts, u.Accepts p x) ∨ ∃ w ∈ waiting, w.Accepts p x :=
        h.imp_left fun ⟨u, hu, ha⟩ => ⟨u, List.mem_cons_of_mem t hu, ha⟩
      rw [settle] at h
      split at h
      · exact later (ih h)
      · simp only at h
        split at h
        · exact later (ih h)
        · rename_i cls next hi
          rcases ih h with h | ⟨w, hw, ha⟩
          · exact later (.inl h)
          · rcases List.mem_cons.1 hw with rfl | hw
            · exact .inl ⟨t, List.mem_cons_self, .of_consume hi ha⟩
            · exact .inr ⟨w, hw, ha⟩
        · rename_i next hi
          exact accepts_of_moved [_] hi (List.forall_mem_singleton.2 (.jump x next)) (ih h)
        · rename_i first second hi
          exact accepts_of_moved [_, _] hi (List.forall_mem_cons.2 ⟨.first x first second,
            List.forall_mem_singleton.2 (.second x first second)⟩) (ih h)
        · rename_i slot next hi
          exact accepts_of_moved [_] hi (List.forall_mem_singleton.2 (.mark x slot next)) (ih h)
        · rename_i condition next hi
          split at h
          · rename_i hc
            exact accepts_of_moved [_] hi (List.forall_mem_singleton.2 (.require next hc)) (ih h)
          · exact later (ih h)
        · rename_i hi
          exact .inl ⟨t, List.mem_cons_self, 0, .accept x hi⟩

/-- An address where a way has been or still has to be followed from. -/
def Entered (seen : Array Bool) (ts : List Thread) (pc : Nat) : Prop :=
  seen.getD pc true = true ∨ ∃ t ∈ ts, t.pc = pc

theorem getD_setIfInBounds (seen : Array Bool) (i j : Nat) :
    (seen.setIfInBounds i true).getD j true = if i = j then true else seen.getD j true := by
  rw [Array.getD_eq_getD_getElem?, Array.getElem?_setIfInBounds, Array.getD_eq_getD_getElem?]
  split
  · split <;> rfl
  · rfl

theorem Entered.drop {t : Thread} {ts : List Thread} {seen : Array Bool} {pc : Nat}
    (h : Entered seen (t :: ts) pc) (hs : seen.getD t.pc true = true) : Entered seen ts pc := by
  rcases h with h | ⟨u, hu, rfl⟩
  · exact .inl h
  · rcases List.mem_cons.1 hu with rfl | hu
    · exact .inl hs
    · exact .inr ⟨u, hu, rfl⟩

theorem Entered.enter {t : Thread} {ts : List Thread} {seen : Array Bool} {pc : Nat}
    (h : Entered seen (t :: ts) pc) (us : List Thread) :
    Entered (seen.setIfInBounds t.pc true) (us ++ ts) pc := by
  rcases h with h | ⟨u, hu, rfl⟩
  · exact .inl (by rw [getD_setIfInBounds, h, ite_self])
  · rcases List.mem_cons.1 hu with rfl | hu
    · exact .inl (by rw [getD_setIfInBounds, if_pos rfl])
    · exact .inr ⟨u, List.mem_append_right us hu, rfl⟩

/-- From every step that was entered the ways lead on: to steps that were or have to be entered, or
to a way that waits. No match was found there. -/
structure Covered (p : Program) (x : Cursor) (ts : List Thread) (seen : Array Bool)
    (waiting : List Waiting) : Prop where
  size : seen.size = p.size
  moves : ∀ (pc : Nat) (i : Inst) (next : Nat), seen[pc]? = some true → p[pc]? = some i →
    i.Moves x next → Entered seen ts next
  waits : ∀ (pc : Nat) (cls : CharClass) (next : Nat), seen[pc]? = some true →
    p[pc]? = some (.consume cls next) → ∃ w ∈ waiting, w.cls = cls ∧ w.next = next
  unfinished : ∀ pc : Nat, seen[pc]? = some true → p[pc]? ≠ some .accept

namespace Covered

variable {t : Thread} {ts : List Thread} {seen : Array Bool} {waiting : List Waiting}

theorem start (p : Program) (x : Cursor) (ts : List Thread) :
    Covered p x ts (Array.replicate p.size false) [] where
  size := Array.size_replicate
  moves := by simp [Array.getElem?_replicate]
  waits := by simp [Array.getElem?_replicate]
  unfinished := by simp [Array.getElem?_replicate]

theorem seen_of_inst (h : Covered p x ts seen waiting) {pc : Nat} {i : Inst} (hi : p[pc]? = some i)
    (hs : seen.getD pc true = true) : seen[pc]? = some true := by
  have hp : pc < p.size := (Array.getElem?_eq_some_iff.1 hi).1
  have hpc : pc < seen.size := h.size ▸ hp
  rw [Array.getD_eq_getD_getElem?, Array.getElem?_eq_getElem hpc, Option.getD_some] at hs
  rw [Array.getElem?_eq_getElem hpc, hs]

/-- When all ways have been followed, those that wait stand for all others. -/
theorem waiting_accepts (h : Covered p x [] seen waiting) {n pc : Nat} (ha : Accepts p n pc x)
    (hs : seen.getD pc true = true) : ∃ w ∈ waiting, w.Accepts p x := by
  induction n generalizing pc with
  | zero =>
    cases ha with
    | accept _ hi => exact absurd hi (h.unfinished pc (h.seen_of_inst hi hs))
  | succ n ih =>
    cases ha with
    | move hi hm ha =>
      rcases h.moves pc _ _ (h.seen_of_inst hi hs) hi hm with hn | ⟨t, ht, -⟩
      · exact ih ha hn
      · cases ht
    | consume hi hc ha =>
      obtain ⟨w, hw, hcls, hnext⟩ := h.waits pc _ _ (h.seen_of_inst hi hs) hi
      exact ⟨w, hw, _, _, n, rfl, hcls ▸ hc, hnext ▸ ha⟩

/-- A way that leads where another has been need not be followed. -/
theorem drop (h : Covered p x (t :: ts) seen waiting) (hs : seen.getD t.pc true = true) :
    Covered p x ts seen waiting where
  size := h.size
  moves := fun pc i next hp hi hm => (h.moves pc i next hp hi hm).drop hs
  waits := h.waits
  unfinished := h.unfinished

/-- A step is entered: its way is replaced by all that go on from it. -/
theorem enter (h : Covered p x (t :: ts) seen waiting) {i : Inst} (hi : p[t.pc]? = some i)
    (us : List Thread) (ws : List Waiting)
    (hm : ∀ next, i.Moves x next → ∃ u ∈ us, u.pc = next)
    (hw : ∀ cls next, i = .consume cls next → ∃ w ∈ ws, w.cls = cls ∧ w.next = next)
    (hf : i ≠ .accept) :
    Covered p x (us ++ ts) (seen.setIfInBounds t.pc true) (ws ++ waiting) where
  size := by rw [Array.size_setIfInBounds, h.size]
  moves := by
    intro pc j next hp hj hmove
    by_cases hpc : t.pc = pc
    · subst hpc
      obtain rfl := Option.some.inj (hi.symm.trans hj)
      obtain ⟨u, hu, rfl⟩ := hm next hmove
      exact .inr ⟨u, List.mem_append_left ts hu, rfl⟩
    · rw [Array.getElem?_setIfInBounds_ne hpc] at hp
      exact (h.moves pc j next hp hj hmove).enter us
  waits := by
    intro pc cls next hp hj
    by_cases hpc : t.pc = pc
    · subst hpc
      obtain ⟨w, hw, he⟩ := hw cls next (Option.some.inj (hi.symm.trans hj))
      exact ⟨w, List.mem_append_left waiting hw, he⟩
    · rw [Array.getElem?_setIfInBounds_ne hpc] at hp
      obtain ⟨w, hw, he⟩ := h.waits pc cls next hp hj
      exact ⟨w, List.mem_append_right ws hw, he⟩
  unfinished := by
    intro pc hp
    by_cases hpc : t.pc = pc
    · rw [← hpc, hi]
      exact fun ha => hf (Option.some.inj ha)
    · rw [Array.getElem?_setIfInBounds_ne hpc] at hp
      exact h.unfinished pc hp

end Covered

/-- How many steps have not been entered. -/
def unseen (seen : Array Bool) : Nat :=
  seen.toList.count false

theorem unseen_setIfInBounds {seen : Array Bool} {pc : Nat} (h : seen.getD pc true ≠ true) :
    unseen (seen.setIfInBounds pc true) + 1 = unseen seen := by
  have hpc : pc < seen.toList.length := by
    by_contra hle
    rw [Array.getD_eq_getD_getElem?, Array.getElem?_eq_none (by simpa using hle)] at h
    exact h rfl
  have hf : seen.toList[pc] = false := by
    rw [Array.getD_eq_getD_getElem?, Array.getElem?_eq_getElem (by simpa using hpc)] at h
    simpa using h
  have hpos : 0 < seen.toList.count false :=
    List.count_pos_iff.2 (hf ▸ List.getElem_mem hpc)
  rw [unseen, unseen, Array.toList_setIfInBounds, List.count_set hpc, hf,
    if_pos (show (false == false) = true from rfl),
    if_neg (show ¬ (true == false) = true from Bool.false_ne_true)]
  omega

/-- With enough fuel, what is found out at a place stands for all ways that were there. -/
theorem complete_settle {fuel : Nat} {ts : List Thread} {seen : Array Bool}
    {waiting : List Waiting} (h : Covered p x ts seen waiting)
    (hf : ts.length + 2 * unseen seen < fuel) {n pc : Nat} (ha : Accepts p n pc x)
    (he : Entered seen ts pc) :
    (settle p pos x.before x.rest.head? fuel ts seen waiting).Accepts p x := by
  induction fuel generalizing ts seen waiting with
  | zero => omega
  | succ fuel ih =>
    cases ts with
    | nil =>
      rcases he with hs | ⟨t, ht, -⟩
      · exact (Place.accepts_reverse waiting).2 (h.waiting_accepts ha hs)
      · cases ht
    | cons t ts =>
      rw [List.length_cons] at hf
      rw [settle]
      split
      · rename_i hs
        exact ih (h.drop hs) (by omega) (he.drop hs)
      · rename_i hs
        have hu := unseen_setIfInBounds hs
        -- at most two ways go on instead of one, and one step less is left to enter
        have onward (us : List Thread) (ws : List Waiting) (hl : us.length ≤ 2)
            (hc : Covered p x (us ++ ts) (seen.setIfInBounds t.pc true) (ws ++ waiting)) :
            (settle p pos x.before x.rest.head? fuel (us ++ ts) (seen.setIfInBounds t.pc true)
              (ws ++ waiting)).Accepts p x :=
          ih hc (by rw [List.length_append]; omega) (he.enter us)
        simp only
        split
        · rename_i hi
          rw [Array.getElem?_eq_none_iff, ← h.size] at hi
          rw [Array.getD_eq_getD_getElem?, Array.getElem?_eq_none hi] at hs
          exact absurd rfl hs
        · rename_i cls next hi
          refine onward [] [_] (by simp) (h.enter hi [] [⟨cls, next, t.slots⟩] ?_ ?_ nofun)
          · intro _ hm
            cases hm
          · rintro _ _ ⟨⟩
            exact ⟨_, List.mem_cons_self, rfl, rfl⟩
        · rename_i next hi
          refine onward [_] [] (by simp) (h.enter hi [⟨next, t.slots⟩] [] ?_ nofun nofun)
          rintro _ ⟨⟩
          exact ⟨_, List.mem_cons_self, rfl⟩
        · rename_i first second hi
          refine onward [_, _] [] (by simp)
            (h.enter hi [⟨first, t.slots⟩, ⟨second, t.slots⟩] [] ?_ nofun nofun)
          rintro _ ⟨⟩
          · exact ⟨_, List.mem_cons_self, rfl⟩
          · exact ⟨_, List.mem_cons_of_mem _ List.mem_cons_self, rfl⟩
        · rename_i slot next hi
          refine onward [_] [] (by simp) (h.enter hi [⟨next, _⟩] [] ?_ nofun nofun)
          rintro _ ⟨⟩
          exact ⟨_, List.mem_cons_self, rfl⟩
        · rename_i condition next hi
          split
          · refine onward [_] [] (by simp) (h.enter hi [⟨next, t.slots⟩] [] ?_ nofun nofun)
            rintro _ ⟨⟩
            exact ⟨_, List.mem_cons_self, rfl⟩
          · rename_i hc
            refine onward [] [] (by simp) (h.enter hi [] [] ?_ nofun nofun)
            intro _ hm
            cases hm with
            | require _ hh => exact absurd hh hc
        · exact .inl rfl

theorem unseen_replicate (n : Nat) : unseen (Array.replicate n false) = n := by
  simp [unseen]

/-- A place is found to accept just if one of the ways that come there does. -/
theorem settleAll_accepts_iff {ts : List Thread} :
    (settleAll p pos x.before x.rest.head? ts).Accepts p x ↔ ∃ t ∈ ts, t.Accepts p x := by
  constructor
  · intro h
    rcases sound_settle h with ht | ⟨w, hw, -⟩
    · exact ht
    · cases hw
  · rintro ⟨t, ht, n, ha⟩
    exact complete_settle (.start p x ts) (by rw [unseen_replicate]; omega) ha
      (.inr ⟨t, ht, rfl⟩)

end Settle

variable {p : Program}

theorem advance_accepts_iff {before : Option Char} {c : Char} {cs : List Char}
    {waiting : List Waiting} :
    (∃ t ∈ advance c waiting, t.Accepts p ⟨some c, cs⟩) ↔
      ∃ w ∈ waiting, w.Accepts p ⟨before, c :: cs⟩ := by
  constructor
  · rintro ⟨t, ht, n, ha⟩
    obtain ⟨w, hw, he⟩ := List.mem_filterMap.1 ht
    split at he
    · rename_i hc
      obtain rfl := Option.some.inj he
      exact ⟨w, hw, c, cs, n, rfl, hc, ha⟩
    · cases he
  · rintro ⟨w, hw, _, _, n, ⟨⟩, hc, ha⟩
    exact ⟨⟨w.next, w.slots⟩, List.mem_filterMap.2 ⟨w, hw, if_pos hc⟩, n, ha⟩

theorem not_accepts_nil {before : Option Char} (w : Waiting) : ¬ w.Accepts p ⟨before, []⟩ := by
  rintro ⟨_, _, _, ⟨⟩, -⟩

/-- A way leads from the start of a program at some place of a text to the accepting step. -/
def StartsIn (p : Program) (before : Option Char) (text : List Char) : Prop :=
  ∃ first last n, text = first ++ last ∧ Accepts p n 0 ⟨first.getLast?.or before, last⟩

theorem startsIn_nil {before : Option Char} :
    StartsIn p before [] ↔ ∃ n, Accepts p n 0 ⟨before, []⟩ := by
  constructor
  · rintro ⟨first, last, n, he, ha⟩
    obtain ⟨rfl, rfl⟩ := List.nil_eq_append_iff.1 he
    exact ⟨n, ha⟩
  · rintro ⟨n, ha⟩
    exact ⟨[], [], n, rfl, ha⟩

theorem getLast?_cons_or (c : Char) (cs : List Char) (before : Option Char) :
    (c :: cs).getLast?.or before = cs.getLast?.or (some c) := by
  rw [List.getLast?_cons]
  cases cs.getLast? <;> rfl

theorem startsIn_cons {before : Option Char} {c : Char} {cs : List Char} :
    StartsIn p before (c :: cs) ↔
      (∃ n, Accepts p n 0 ⟨before, c :: cs⟩) ∨ StartsIn p (some c) cs := by
  constructor
  · rintro ⟨first, last, n, he, ha⟩
    cases first with
    | nil =>
      obtain rfl : c :: cs = last := he
      exact .inl ⟨n, ha⟩
    | cons d first =>
      obtain ⟨rfl, rfl⟩ := List.cons.inj he
      rw [getLast?_cons_or] at ha
      exact .inr ⟨first, last, n, rfl, ha⟩
  · rintro (⟨n, ha⟩ | ⟨first, last, n, rfl, ha⟩)
    · exact ⟨[], c :: cs, n, rfl, ha⟩
    · exact ⟨c :: first, last, n, rfl, by rwa [getLast?_cons_or]⟩

theorem start_accepts_iff {fresh : Slots} {ts : List Thread} {x : Cursor} :
    (∃ t ∈ searchFrom.start fresh ts none, t.Accepts p x) ↔
      (∃ t ∈ ts, t.Accepts p x) ∨ ∃ n, Accepts p n 0 x := by
  rw [searchFrom.start, if_pos Option.isNone_none]
  simp only [List.mem_append, List.mem_singleton, or_and_right, exists_or, exists_eq_left,
    Thread.Accepts]

/-- The search goes on as long as nothing is found, so it finds what any way leads to. -/
theorem isSome_searchFrom (fresh : Slots) (pos : Nat) (before : Option Char) (ts : List Thread)
    (best : Option Slots) (cs : List Char) :
    (searchFrom p fresh pos before ts best cs).isSome = true ↔
      best.isSome = true ∨ (∃ t ∈ ts, t.Accepts p ⟨before, cs⟩) ∨ StartsIn p before cs := by
  induction cs generalizing pos before ts best with
  | nil =>
    rw [searchFrom, Option.isSome_or, Bool.or_eq_true]
    cases best with
    | some best => simp
    | none =>
      have hplace : (settleAll p pos before none (searchFrom.start fresh ts none)).Accepts p
          ⟨before, []⟩ ↔ _ := settleAll_accepts_iff
      rw [start_accepts_iff, ← startsIn_nil] at hplace
      simpa [Place.Accepts, not_accepts_nil] using hplace
  | cons c cs ih =>
    rw [searchFrom, ih, Option.isSome_or, Bool.or_eq_true]
    cases best with
    | some best => simp
    | none =>
      have hplace : (settleAll p pos before (some c) (searchFrom.start fresh ts none)).Accepts p
          ⟨before, c :: cs⟩ ↔ _ := settleAll_accepts_iff
      rw [start_accepts_iff, Place.Accepts, ← advance_accepts_iff] at hplace
      rw [startsIn_cons, ← or_assoc, ← or_assoc]
      simp only [Option.isSome_none, Bool.false_eq_true, or_false, false_or, hplace, or_assoc]

/-- A search finds something exactly if a way leads from the start of the program, at some place of
the text, to the accepting step. -/
theorem isSome_search (groups : Nat) (text : List Char) :
    (search p groups text).isSome = true ↔ StartsIn p none text := by
  rw [search, isSome_searchFrom]
  simp

end Telemetry.Regex
