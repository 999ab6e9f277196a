import Telemetry.Proofs.Regex.Code
/-!
# Where marks come from

The ways of a search with the marks they make. Main statement: the marks of a match were made along
one way from the start of the program to the accepting step.
-/
namespace Telemetry.Regex

/-- The marks behind a step at a place. -/
def Inst.marked (pos : Nat) (slots : Slots) : Inst → Slots
  | mark slot _ => slots.setIfInBounds slot (some pos)
  | _ => slots

/-- A way from the start of a program, begun at some place of a text, comes to an address with
marks, so many characters into the text. -/
inductive Arrives (p : Program) (fresh : Slots) (text : List Char) :
    Nat → Slots → Nat → Cursor → Prop where
  | start (first last : List Char) (h : text = first ++ last) :
    Arrives p fresh text 0 fresh first.length ⟨first.getLast?, last⟩
  | move {pc next pos : Nat} {slots : Slots} {x : Cursor} {i : Inst}
    (h : Arrives p fresh text pc slots pos x) (hi : p[pc]? = some i) (hm : i.Moves x next) :
    Arrives p fresh text next (i.marked pos slots) pos x
  | consume {pc next pos : Nat} {slots : Slots} {before : Option Char} {c : Char} {cs : List Char}
    {cls : CharClass} (h : Arrives p fresh text pc slots pos ⟨before, c :: cs⟩)
    (hi : p[pc]? = some (.consume cls next)) (hc : cls.mem c = true) :
    Arrives p fresh text next slots (pos + 1) ⟨some c, cs⟩

section Search

variable {p : Program} {fresh : Slots} {text : List Char} {pos : Nat} {x : Cursor}

/-- Marks with which some way comes to the accepting step. -/
def Finishes (p : Program) (fresh : Slots) (text : List Char) (slots : Slots) : Prop :=
  ∃ pc pos x, p[pc]? = some .accept ∧ Arrives p fresh text pc slots pos x

/-- A way has come to the step at which it waits. -/
def Waiting.Arrives (p : Program) (fresh : Slots) (text : List Char) (pos : Nat) (x : Cursor)
    (w : Waiting) : Prop :=
  ∃ pc, p[pc]? = some (.consume w.cls w.next) ∧ Regex.Arrives p fresh text pc w.slots pos x

/-- All that was found out at a place comes from ways that have come there. -/
structure Place.Arrives (p : Program) (fresh : Slots) (text : List Char) (pos : Nat) (x : Cursor)
    (place : Place) : Prop where
  found : ∀ slots, place.found = some slots → Finishes p fresh text slots
  waiting : ∀ w ∈ place.waiting, w.Arrives p fresh text pos x

theorem Place.arrives_reverse {waiting : List Waiting}
    (hw : ∀ w ∈ waiting, w.Arrives p fresh text pos x) :
    (⟨waiting.reverse, none⟩ : Place).Arrives p fresh text pos x where
  found := nofun
  waiting := fun w h => hw w (List.mem_reverse.1 h)

theorem settle_arrives {fuel : Nat} {ts : List Thread} {seen : Array Bool} {waiting : List Waiting}
    (ht : ∀ t ∈ ts, Arrives p fresh text t.pc t.slots pos x)
    (hw : ∀ w ∈ waiting, w.Arrives p fresh text pos x) :
    (settle p pos x.before x.rest.head? fuel ts seen waiting).Arrives p fresh text pos x := by
  induction fuel generalizing ts seen waiting with
  | zero => exact Place.arrives_reverse hw
  | succ fuel ih =>
    cases ts with
    | nil => exact Place.arrives_reverse hw
    | cons t ts =>
      obtain ⟨hhead, htail⟩ := List.forall_mem_cons.1 ht
      have onward (us : List Thread) (hu : ∀ u ∈ us, Arrives p fresh text u.pc u.slots pos x) :
          ∀ u ∈ us ++ ts, Arrives p fresh text u.pc u.slots pos x :=
        fun u h => (List.mem_append.1 h).elim (hu u) (htail u)
      rw [settle]
      split
      · exact ih htail hw
      · simp only
        split
        · exact ih htail hw
        · rename_i cls next hi
          exact ih htail (List.forall_mem_cons.2 ⟨⟨t.pc, hi, hhead⟩, hw⟩)
        · rename_i next hi
          exact ih (onward [_] (List.forall_mem_singleton.2 (hhead.move hi (.jump x next)))) hw
        · rename_i first second hi
          exact ih (onward [_, _] (List.forall_mem_cons.2 ⟨hhead.move hi (.first x first second),
            List.forall_mem_singleton.2 (hhead.move hi (.second x first second))⟩)) hw
        · rename_i slot next hi
          exact ih (onward [_] (List.forall_mem_singleton.2 (hhead.move hi (.mark x slot next)))) hw
        · rename_i condition next hi
          split
          · rename_i hc
            exact ih
              (onward [_] (List.forall_mem_singleton.2 (hhead.move hi (.require next hc)))) hw
          · exact ih htail hw
        · rename_i hi
          refine ⟨fun slots h => ?_, fun w h => hw w (List.mem_reverse.1 h)⟩
          obtain rfl := Option.some.inj h
          exact ⟨t.pc, pos, x, hi, hhead⟩

theorem settleAll_arrives {ts : List Thread}
    (ht : ∀ t ∈ ts, Arrives p fresh text t.pc t.slots pos x) :
    (settleAll p pos x.before x.rest.head? ts).Arrives p fresh text pos x :=
  settle_arrives ht (List.forall_mem_nil _)

theorem advance_arrives {before : Option Char} {c : Char} {cs : List Char} {waiting : List Waiting}
    (hw : ∀ w ∈ waiting, w.Arrives p fresh text pos ⟨before, c :: cs⟩) :
    ∀ t ∈ advance c waiting, Arrives p fresh text t.pc t.slots (pos + 1) ⟨some c, cs⟩ := by
  intro t ht
  obtain ⟨w, hmem, he⟩ := List.mem_filterMap.1 ht
  obtain ⟨pc, hi, ha⟩ := hw w hmem
  split at he
  · rename_i hc
    cases he
    exact ha.consume hi hc
  · cases he

theorem start_arrives {ts : List Thread} {best : Option Slots} {first cs : List Char}
    (htext : text = first ++ cs)
    (ht : ∀ t ∈ ts, Arrives p fresh text t.pc t.slots first.length ⟨first.getLast?, cs⟩) :
    ∀ t ∈ searchFrom.start fresh ts best,
      Arrives p fresh text t.pc t.slots first.length ⟨first.getLast?, cs⟩ := by
  rw [searchFrom.start]
  split
  · intro t hmem
    rcases List.mem_append.1 hmem with hmem | hmem
    · exact ht t hmem
    · obtain rfl := List.mem_singleton.1 hmem
      exact .start first cs htext
  · exact ht

theorem Place.Arrives.or {place : Place} {best : Option Slots}
    (hp : place.Arrives p fresh text pos x)
    (hbest : ∀ slots, best = some slots → Finishes p fresh text slots) (slots : Slots)
    (h : place.found.or best = some slots) : Finishes p fresh text slots := by
  rcases Option.or_eq_some_iff.1 h with h | ⟨-, h⟩
  · exact hp.found slots h
  · exact hbest slots h

theorem searchFrom_finishes {ts : List Thread} {best : Option Slots} {cs : List Char}
    {slots : Slots} (first : List Char) (htext : text = first ++ cs)
    (ht : ∀ t ∈ ts, Arrives p fresh text t.pc t.slots first.length ⟨first.getLast?, cs⟩)
    (hbest : ∀ slots, best = some slots → Finishes p fresh text slots)
    (h : searchFrom p fresh first.length first.getLast? ts best cs = some slots) :
    Finishes p fresh text slots := by
  induction cs generalizing first ts best with
  | nil =>
    have hplace : (settleAll p first.length first.getLast? none
        (searchFrom.start fresh ts best)).Arrives p fresh text first.length ⟨first.getLast?, []⟩ :=
      settleAll_arrives (start_arrives htext ht)
    exact hplace.or hbest slots h
  | cons c cs ih =>
    have hplace : (settleAll p first.length first.getLast? (some c)
        (searchFrom.start fresh ts best)).Arrives p fresh text first.length
          ⟨first.getLast?, c :: cs⟩ :=
      settleAll_arrives (start_arrives htext ht)
    have hlast : (first ++ [c]).getLast? = some c := List.getLast?_concat
    have hlength : (first ++ [c]).length = first.length + 1 := List.length_append
    have hts := advance_arrives hplace.waiting
    rw [← hlength, ← hlast] at hts
    refine ih (first ++ [c]) (by rw [htext, List.append_assoc]; rfl) hts (hplace.or hbest) ?_
    rw [hlast, hlength]
    exact h

/-- The marks that a search finds were made along one way through the program. -/
theorem search_finishes {groups : Nat} {slots : Slots} (h : search p groups text = some slots) :
    Finishes p (Array.replicate (2 * (groups + 1)) none) text slots :=
  have hnone (slots : Slots) (hs : (none : Option Slots) = some slots) :
      Finishes p (Array.replicate (2 * (groups + 1)) none) text slots := nomatch hs
  searchFrom_finishes [] rfl (List.forall_mem_nil _) hnone h

end Search

/-! ## Marks of groups -/

/-- All groups have numbers from one on. -/
def Node.Numbered : Node → Prop
  | empty => True
  | chars _ => True
  | look _ => True
  | group i e => 0 < i ∧ e.Numbered
  | cat a b => a.Numbered ∧ b.Numbered
  | alt a b => a.Numbered ∧ b.Numbered
  | opt e _ => e.Numbered
  | plus e _ => e.Numbered
  | star e _ => e.Numbered

/-- All groups have numbers from one on. -/
def Expr.Numbered : Expr → Prop
  | empty => True
  | chars _ => True
  | look _ => True
  | group i e => 0 < i ∧ e.Numbered
  | cat a b => a.Numbered ∧ b.Numbered
  | alt a b => a.Numbered ∧ b.Numbered
  | times e _ _ _ => e.Numbered

namespace Node.Numbered

variable {e : Node}

theorem copies (h : e.Numbered) {last : Node} (hl : last.Numbered) (n : Nat) :
    (e.copies n last).Numbered := by
  induction n with
  | zero => exact hl
  | succ n ih => exact ⟨h, ih⟩

theorem upTo (h : e.Numbered) (greedy : Bool) (n : Nat) : (e.upTo greedy n).Numbered := by
  induction n using Node.upTo.induct with
  | case1 => trivial
  | case2 => exact h
  | case3 n ih => exact ⟨h, ih⟩

theorem plus (h : e.Numbered) (greedy : Bool) : (e.plus greedy).Numbered :=
  h

theorem many (h : e.Numbered) (consuming greedy : Bool) : (e.many consuming greedy).Numbered := by
  rw [Node.many]
  split <;> exact h

theorem times (h : e.Numbered) (consuming : Bool) (least : Nat) (most : Option Nat)
    (greedy : Bool) : (e.times consuming least most greedy).Numbered := by
  unfold Node.times
  split
  · exact h.many consuming greedy
  · exact h.copies (h.plus greedy) _
  · split
    · trivial
    split
    · exact h.copies h _
    · exact h.copies (h.upTo greedy _) _

end Node.Numbered

theorem Expr.Numbered.expand {e : Expr} (h : e.Numbered) : e.expand.Numbered := by
  induction e with
  | empty => trivial
  | chars cls => trivial
  | look condition => trivial
  | group i e ih => exact ⟨h.1, ih h.2⟩
  | cat a b iha ihb => exact ⟨iha h.1, ihb h.2⟩
  | alt a b iha ihb => exact ⟨iha h.1, ihb h.2⟩
  | times e least most greedy ih =>
    rw [Expr.expand]
    split
    · exact (ih h).times _ _ _ _
    · exact (ih h).times _ _ _ _

/-- A step goes on only to some addresses, and marks no end of the whole match. -/
def Inst.Stays (P : Nat → Prop) : Inst → Prop
  | consume _ next => P next
  | jump next => P next
  | fork first second => P first ∧ P second
  | mark slot next => 2 ≤ slot ∧ P next
  | require _ next => P next
  | accept => False

theorem choice_stays {P : Nat → Prop} {greedy : Bool} {body leave : Nat} (hb : P body)
    (hl : P leave) : (Node.choice greedy body leave).Stays P := by
  cases greedy with
  | false => exact ⟨hl, hb⟩
  | true => exact ⟨hb, hl⟩

theorem Node.size_pos (e : Node) : 0 < e.size := by
  induction e with
  | empty => exact Nat.zero_lt_one
  | chars cls => exact Nat.zero_lt_one
  | look condition => exact Nat.zero_lt_one
  | cat a b iha ihb => exact Nat.add_pos_left iha _
  | _ => exact Nat.succ_pos _

/-- The code of an expression goes on within itself or to the address behind it. -/
theorem stays_of_mem_code {P : Nat → Prop} {e : Node} (he : e.Numbered) {here next : Nat}
    (hin : ∀ a, here ≤ a → a < here + e.size → P a) (hnext : P next) :
    ∀ i ∈ e.code here next, i.Stays P := by
  induction e generalizing here next with
  | empty => exact List.forall_mem_singleton.2 hnext
  | chars cls => exact List.forall_mem_singleton.2 hnext
  | look condition => exact List.forall_mem_singleton.2 hnext
  | group i e ih =>
    obtain ⟨hi, he⟩ := he
    rw [Node.size] at hin
    refine List.forall_mem_cons.2 ⟨⟨by omega, hin _ (by omega) (by omega)⟩, ?_⟩
    refine List.forall_mem_append.2 ⟨ih he (fun a h h' => hin a (by omega) (by omega)) ?_, ?_⟩
    · exact hin _ (by omega) (by omega)
    · exact List.forall_mem_singleton.2 ⟨by omega, hnext⟩
  | cat a b iha ihb =>
    have hb := b.size_pos
    rw [Node.size] at hin
    refine List.forall_mem_append.2 ⟨iha he.1 (fun c h h' => hin c h (by omega)) ?_,
      ihb he.2 (fun c h h' => hin c (by omega) (by omega)) hnext⟩
    exact hin _ (by omega) (by omega)
  | alt a b iha ihb =>
    have ha := a.size_pos
    have hb := b.size_pos
    rw [Node.size] at hin
    refine List.forall_mem_cons.2 ⟨⟨hin _ (by omega) (by omega), hin _ (by omega) (by omega)⟩, ?_⟩
    exact List.forall_mem_append.2 ⟨iha he.1 (fun c h h' => hin c (by omega) (by omega)) hnext,
      ihb he.2 (fun c h h' => hin c (by omega) (by omega)) hnext⟩
  | opt e greedy ih =>
    have hpos := e.size_pos
    rw [Node.size] at hin
    exact List.forall_mem_cons.2 ⟨choice_stays (hin _ (by omega) (by omega)) hnext,
      ih he (fun a h h' => hin a (by omega) (by omega)) hnext⟩
  | plus e greedy ih =>
    rw [Node.size] at hin
    refine List.forall_mem_append.2 ⟨ih he (fun a h h' => hin a h (by omega)) ?_,
      List.forall_mem_singleton.2 (choice_stays (hin _ (by omega) (by omega)) hnext)⟩
    exact hin _ (by omega) (by omega)
  | star e greedy ih =>
    have hpos := e.size_pos
    rw [Node.size] at hin
    refine List.forall_mem_cons.2 ⟨choice_stays (hin _ (by omega) (by omega)) hnext,
      ih he (fun a h h' => hin a (by omega) (by omega)) ?_⟩
    exact hin _ (by omega) (by omega)

/-! ## Expressions between the two ends of a text -/

/-- The expression that matches just the texts that `e` matches as a whole. -/
def Expr.between (e : Expr) : Expr :=
  .cat (.look .textStart) (.cat e (.look .textEnd))

/-- What is known of a way through the code of an expression between the ends of a text: the marks
of the whole match stand at the ends as soon as they have been made. -/
structure OnTrack (size length pc : Nat) (slots : Slots) (pos : Nat) : Prop where
  room : 2 ≤ slots.size
  begun : pc = 1 → slots[0]? = some (some pos)
  inner : 2 ≤ pc → slots[0]? = some (some 0)
  ended : size + 3 ≤ pc → pos = length
  marked : size + 4 ≤ pc → slots[1]? = some (some length)

/-- A way that is so many characters into a text stands at that place of it. -/
theorem Arrives.place {p : Program} {fresh slots : Slots} {text : List Char} {pc pos : Nat}
    {x : Cursor} (h : Arrives p fresh text pc slots pos x) :
    ∃ first, text = first ++ x.rest ∧ pos = first.length ∧ x.before = first.getLast? := by
  induction h with
  | start first last h => exact ⟨first, h, rfl, rfl⟩
  | move _ _ _ ih => exact ih
  | @consume pc next pos slots before c cs cls _ _ _ ih =>
    obtain ⟨first, rfl, rfl, -⟩ := ih
    exact ⟨first ++ [c], by simp, by simp, by simp⟩

theorem compile_between (e : Expr) : e.between.compile =
    (.mark 0 1 :: .require .textStart 2 :: (e.expand.code 2 (e.expand.size + 2) ++
      [.require .textEnd (e.expand.size + 3), .mark 1 (e.expand.size + 4), .accept])).toArray := by
  have h2 : 0 + 1 + 1 + e.expand.size = e.expand.size + 2 := by omega
  have h3 : 0 + 1 + (1 + (e.expand.size + 1)) = e.expand.size + 3 := by omega
  have h4 : 1 + (e.expand.size + 1) + 2 = e.expand.size + 4 := by omega
  simp only [Expr.between, Expr.compile, Expr.expand, Node.code, Node.size, List.append_assoc,
    List.cons_append, List.nil_append, h2, h3, h4]

section Between

variable {e : Expr} {pc : Nat} {i : Inst}

/-- The steps of an expression between the two ends of a text. -/
theorem inst_between (h : e.between.compile[pc]? = some i) :
    (pc = 0 ∧ i = .mark 0 1) ∨ (pc = 1 ∧ i = .require .textStart 2) ∨
      (2 ≤ pc ∧ pc < e.expand.size + 2 ∧ i ∈ e.expand.code 2 (e.expand.size + 2)) ∨
      (pc = e.expand.size + 2 ∧ i = .require .textEnd (e.expand.size + 3)) ∨
      (pc = e.expand.size + 3 ∧ i = .mark 1 (e.expand.size + 4)) ∨
      (pc = e.expand.size + 4 ∧ i = .accept) := by
  rw [compile_between, List.getElem?_toArray] at h
  match pc with
  | 0 => exact .inl ⟨rfl, (Option.some.inj h).symm⟩
  | 1 => exact .inr (.inl ⟨rfl, (Option.some.inj h).symm⟩)
  | pc + 2 =>
    rw [List.getElem?_cons_succ, List.getElem?_cons_succ] at h
    by_cases hpc : pc < e.expand.size
    · rw [List.getElem?_append_left (by simpa using hpc)] at h
      exact .inr (.inr (.inl ⟨by omega, by omega, List.mem_of_getElem? h⟩))
    · rw [List.getElem?_append_right (by simpa using hpc), Node.length_code] at h
      obtain ⟨k, rfl⟩ : ∃ k, pc = e.expand.size + k := ⟨pc - e.expand.size, by omega⟩
      rw [Nat.add_sub_cancel_left] at h
      match k with
      | 0 => exact .inr (.inr (.inr (.inl ⟨rfl, (Option.some.inj h).symm⟩)))
      | 1 => exact .inr (.inr (.inr (.inr (.inl ⟨rfl, (Option.some.inj h).symm⟩))))
      | 2 => exact .inr (.inr (.inr (.inr (.inr ⟨rfl, (Option.some.inj h).symm⟩))))

variable {P : Nat → Prop} {next pos : Nat} {slots : Slots} {x : Cursor}

theorem Inst.Stays.moves (h : i.Stays P) (hm : i.Moves x next) : P next := by
  cases hm with
  | jump => exact h
  | first => exact h.1
  | second => exact h.2
  | mark => exact h.2
  | require => exact h

theorem Inst.size_marked : (i.marked pos slots).size = slots.size := by
  cases i with
  | mark slot next => exact Array.size_setIfInBounds
  | _ => rfl

theorem Inst.Stays.marked (h : i.Stays P) {slot : Nat} (hs : slot < 2) :
    (i.marked pos slots)[slot]? = slots[slot]? := by
  cases i with
  | mark own next =>
    obtain ⟨ho, -⟩ := h
    exact Array.getElem?_setIfInBounds_ne (by omega)
  | _ => rfl

variable {text : List Char} {fresh : Slots}

theorem stays_between (he : e.expand.Numbered) (hi : i ∈ e.expand.code 2 (e.expand.size + 2)) :
    i.Stays fun a => 2 ≤ a ∧ a ≤ e.expand.size + 2 :=
  stays_of_mem_code he (fun a h h' => ⟨h, by omega⟩) ⟨by omega, Nat.le_refl _⟩ i hi

namespace OnTrack

theorem within {size length : Nat} (hr : 2 ≤ slots.size) (h0 : slots[0]? = some (some 0))
    (hn : 2 ≤ next ∧ next ≤ size + 2) : OnTrack size length next slots pos :=
  ⟨hr, by omega, fun _ => h0, by omega, by omega⟩

/-- A step that reads nothing, taken where so much of the text has been read. -/
theorem move {first : List Char} (he : e.expand.Numbered)
    (h : OnTrack e.expand.size (first ++ x.rest).length pc slots first.length)
    (hx : x.before = first.getLast?) (hi : e.between.compile[pc]? = some i) (hm : i.Moves x next) :
    OnTrack e.expand.size (first ++ x.rest).length next (i.marked first.length slots)
      first.length := by
  have hroom : 2 ≤ (i.marked first.length slots).size := by
    rw [Inst.size_marked]
    exact h.room
  have hslots := h.room
  rcases inst_between hi with ⟨rfl, rfl⟩ | ⟨rfl, rfl⟩ | ⟨h2, -, hmem⟩ | ⟨rfl, rfl⟩ | ⟨rfl, rfl⟩ |
    ⟨rfl, rfl⟩
  · cases hm
    exact ⟨hroom, fun _ => Array.getElem?_setIfInBounds_self_of_lt (by omega), by omega, by omega,
      by omega⟩
  · cases hm with
    | require _ hh =>
      have hnone : first.getLast? = none := hx ▸ Option.isNone_iff_eq_none.1 hh
      obtain rfl := List.getLast?_eq_none_iff.1 hnone
      exact within hroom (h.begun rfl) ⟨by omega, by omega⟩
  · have hstays := stays_between he hmem
    exact within hroom ((hstays.marked (by omega)).trans (h.inner h2)) (hstays.moves hm)
  · cases hm with
    | require _ hh =>
      have hrest : x.rest = [] := by
        rw [← List.head?_eq_none_iff]
        exact Option.isNone_iff_eq_none.1 hh
      refine ⟨hroom, by omega, fun _ => h.inner (by omega), fun _ => ?_, by omega⟩
      rw [hrest, List.append_nil]
  · have hlength := h.ended (Nat.le_refl _)
    cases hm
    refine ⟨hroom, by omega, fun _ => ?_, fun _ => hlength, fun _ => ?_⟩
    · rw [← h.inner (by omega)]
      exact Array.getElem?_setIfInBounds_ne (by omega)
    · rw [← hlength]
      exact Array.getElem?_setIfInBounds_self_of_lt (by omega)
  · cases hm

/-- A step that reads a character is one of the expression. -/
theorem consume {length : Nat} {cls : CharClass} (he : e.expand.Numbered)
    (h : OnTrack e.expand.size length pc slots pos)
    (hi : e.between.compile[pc]? = some (.consume cls next)) :
    OnTrack e.expand.size length next slots (pos + 1) := by
  rcases inst_between hi with ⟨-, hc⟩ | ⟨-, hc⟩ | ⟨h2, -, hmem⟩ | ⟨-, hc⟩ | ⟨-, hc⟩ | ⟨-, hc⟩
  · cases hc
  · cases hc
  · exact within h.room (h.inner h2) (stays_between he hmem)
  · cases hc
  · cases hc
  · cases hc

end OnTrack

theorem onTrack_of_arrives (he : e.expand.Numbered) (hf : 2 ≤ fresh.size)
    (h : Arrives e.between.compile fresh text pc slots pos x) :
    OnTrack e.expand.size text.length pc slots pos := by
  induction h with
  | start first last _ => exact ⟨hf, nofun, nofun, nofun, nofun⟩
  | move ha hi hm ih =>
    obtain ⟨first, rfl, rfl, hx⟩ := ha.place
    exact ih.move he hx hi hm
  | consume ha hi hc ih => exact ih.consume he hi

/-- A match of an expression between the ends of a text is marked as all of the text. -/
theorem marks_between (he : e.expand.Numbered) (hf : 2 ≤ fresh.size)
    (h : Finishes e.between.compile fresh text slots) :
    slots[0]? = some (some 0) ∧ slots[1]? = some (some text.length) := by
  obtain ⟨pc, pos, x, hi, ha⟩ := h
  have track := onTrack_of_arrives he hf ha
  rcases inst_between hi with ⟨-, he⟩ | ⟨-, he⟩ | ⟨-, -, hmem⟩ | ⟨-, he⟩ | ⟨-, he⟩ | ⟨rfl, -⟩
  · cases he
  · cases he
  · exact (stays_of_mem_code he (P := fun _ => True) (fun _ _ _ => trivial) trivial _ hmem).elim
  · cases he
  · cases he
  · exact ⟨track.inner (by omega), track.marked (Nat.le_refl _)⟩

end Between

end Telemetry.Regex
