import Telemetry.Proofs.Regex.Search
import Telemetry.Regex
/-!
# What the code of an expression does

An expression without counts says which places of a text it leads from and to. Main statements: the
ways from the start of its code to the address behind it are just these, and a regular expression
matches a text exactly if its expression leads from some place of it to another.
-/
namespace Telemetry

namespace Regex

/-- The expression matches what stands between two places of a text. -/
inductive Node.Leads : Node → Cursor → Cursor → Prop where
  | empty (x : Cursor) : Leads .empty x x
  | chars {cls : CharClass} {c : Char} (before : Option Char) (cs : List Char)
    (h : cls.mem c = true) : Leads (.chars cls) ⟨before, c :: cs⟩ ⟨some c, cs⟩
  | look {condition : Look} {x : Cursor} (h : condition.holds x.before x.rest.head? = true) :
    Leads (.look condition) x x
  | group {e : Node} {x y : Cursor} (index : Nat) (h : Leads e x y) : Leads (.group index e) x y
  | cat {a b : Node} {x y z : Cursor} (ha : Leads a x y) (hb : Leads b y z) : Leads (.cat a b) x z
  | left {a : Node} {x y : Cursor} (b : Node) (h : Leads a x y) : Leads (.alt a b) x y
  | right {b : Node} {x y : Cursor} (a : Node) (h : Leads b x y) : Leads (.alt a b) x y
  | skip (e : Node) (greedy : Bool) (x : Cursor) : Leads (.opt e greedy) x x
  | once {e : Node} {x y : Cursor} (greedy : Bool) (h : Leads e x y) : Leads (.opt e greedy) x y
  | last {e : Node} {x y : Cursor} (greedy : Bool) (h : Leads e x y) : Leads (.plus e greedy) x y
  | again {e : Node} {greedy : Bool} {x y z : Cursor} (h : Leads e x y)
    (hs : Leads (.plus e greedy) y z) : Leads (.plus e greedy) x z
  | leave (e : Node) (greedy : Bool) (x : Cursor) : Leads (.star e greedy) x x
  | round {e : Node} {greedy : Bool} {x y z : Cursor} (h : Leads e x y)
    (hs : Leads (.star e greedy) y z) : Leads (.star e greedy) x z

namespace Node

variable {x y : Cursor}

theorem leads_chars_iff {cls : CharClass} : (chars cls).Leads x y ↔
    ∃ c, cls.mem c = true ∧ x.rest = c :: y.rest ∧ y.before = some c := by
  constructor
  · rintro ⟨⟩
    exact ⟨_, ‹_›, rfl, rfl⟩
  · obtain ⟨before, _⟩ := x
    obtain ⟨_, rest⟩ := y
    rintro ⟨c, h, rfl, rfl⟩
    exact .chars before rest h

theorem leads_look_iff {condition : Look} : (look condition).Leads x y ↔
    condition.holds x.before x.rest.head? = true ∧ x = y := by
  constructor
  · rintro ⟨⟩
    exact ⟨‹_›, rfl⟩
  · rintro ⟨h, rfl⟩
    exact .look h

theorem leads_cat_iff {a b : Node} {z : Cursor} :
    (cat a b).Leads x z ↔ ∃ y, a.Leads x y ∧ b.Leads y z := by
  constructor
  · rintro ⟨⟩
    exact ⟨_, ‹_›, ‹_›⟩
  · rintro ⟨y, ha, hb⟩
    exact .cat ha hb

/-- A star of a class takes any run of its members. -/
theorem leads_star_chars_iff {cls : CharClass} {greedy : Bool} :
    (star (chars cls) greedy).Leads x y ↔ ∃ part : List Char, (∀ c ∈ part, cls.mem c = true) ∧
      x.rest = part ++ y.rest ∧ y.before = part.getLast?.or x.before := by
  constructor
  · intro h
    generalize he : star (chars cls) greedy = e at h
    induction h with
    | leave e greedy x => exact ⟨[], nofun, rfl, rfl⟩
    | round h hs ih ihs =>
      cases he
      obtain ⟨c, hc, hx, hb⟩ := leads_chars_iff.1 h
      obtain ⟨part, hp, hr, hy⟩ := ihs rfl
      refine ⟨c :: part, List.forall_mem_cons.2 ⟨hc, hp⟩, ?_, ?_⟩
      · rw [hx, hr, List.cons_append]
      · rw [hy, hb, getLast?_cons_or]
    | _ => cases he
  · rintro ⟨part, hp, hx, hy⟩
    induction part generalizing x with
    | nil =>
      obtain rfl : x = y := by cases x; cases y; cases hx; cases hy; rfl
      exact .leave _ _ _
    | cons c part ih =>
      obtain ⟨hc, hp⟩ := List.forall_mem_cons.1 hp
      rw [getLast?_cons_or] at hy
      refine .round ?_ (ih (x := ⟨some c, part ++ y.rest⟩) hp rfl hy)
      exact leads_chars_iff.2 ⟨c, hc, hx, rfl⟩

end Node

/-- The steps stand in the program from an address on. -/
def Program.Has (p : Program) (here : Nat) (code : List Inst) : Prop :=
  ∀ k i, code[k]? = some i → p[here + k]? = some i

namespace Program.Has

variable {p : Program} {here : Nat} {i : Inst} {code a b : List Inst}

theorem head (h : p.Has here (i :: code)) : p[here]? = some i :=
  h 0 i rfl

theorem tail (h : p.Has here (i :: code)) : p.Has (here + 1) code := by
  intro k j hk
  rw [Nat.add_assoc, Nat.add_comm 1 k]
  exact h (k + 1) j hk

theorem left (h : p.Has here (a ++ b)) : p.Has here a := by
  intro k j hk
  apply h k j
  rw [List.getElem?_append_left (List.getElem?_eq_some_iff.1 hk).1, hk]

theorem right (h : p.Has here (a ++ b)) : p.Has (here + a.length) b := by
  intro k j hk
  rw [Nat.add_assoc]
  apply h (a.length + k) j
  rw [List.getElem?_append_right (Nat.le_add_right _ _), Nat.add_sub_cancel_left, hk]

end Program.Has

theorem choice_moves_iff {greedy : Bool} {body leave next : Nat} {x : Cursor} :
    (Node.choice greedy body leave).Moves x next ↔ next = body ∨ next = leave := by
  cases greedy with
  | false =>
    constructor
    · rintro ⟨⟩
      · exact .inr rfl
      · exact .inl rfl
    · rintro (rfl | rfl)
      · exact .second x leave next
      · exact .first x next body
  | true =>
    constructor
    · rintro ⟨⟩
      · exact .inl rfl
      · exact .inr rfl
    · rintro (rfl | rfl)
      · exact .first x next leave
      · exact .second x body next

/-- A step that neither takes a character nor accepts is followed by one it moves on to. -/
theorem Accepts.moved {p : Program} {n pc : Nat} {x : Cursor} {i : Inst} (ha : Accepts p n pc x)
    (hi : p[pc]? = some i) (hf : i ≠ .accept) (hc : ∀ cls next, i ≠ .consume cls next) :
    ∃ k next, n = k + 1 ∧ i.Moves x next ∧ Accepts p k next x := by
  cases ha with
  | accept _ h => exact absurd (Option.some.inj (hi.symm.trans h)) hf
  | move h hm ha =>
    obtain rfl := Option.some.inj (hi.symm.trans h)
    exact ⟨_, _, rfl, hm, ha⟩
  | consume h _ _ => exact absurd (Option.some.inj (hi.symm.trans h)) (hc _ _)

variable {p : Program}

/-- Where an expression leads, its code leads too. -/
theorem Node.Leads.accepts {e : Node} {x y : Cursor} (h : e.Leads x y) {here next n : Nat}
    (hp : p.Has here (e.code here next)) (ha : Accepts p n next y) : ∃ m, Accepts p m here x := by
  induction h generalizing here next n with
  | empty x => exact ⟨n + 1, .move hp.head (.jump x next) ha⟩
  | chars before cs h => exact ⟨n + 1, .consume hp.head h ha⟩
  | look h => exact ⟨n + 1, .move hp.head (.require next h) ha⟩
  | @group e x y index h ih =>
    have hclose := hp.tail.right.head
    rw [Node.length_code] at hclose
    obtain ⟨m, hm⟩ := ih hp.tail.left (.move hclose (.mark y _ next) ha)
    exact ⟨m + 1, .move hp.head (.mark x _ _) hm⟩
  | cat ha hb iha ihb =>
    have hr := hp.right
    rw [Node.length_code] at hr
    obtain ⟨m, hm⟩ := ihb hr ha
    exact iha hp.left hm
  | @left a x y b h ih =>
    obtain ⟨m, hm⟩ := ih hp.tail.left ha
    exact ⟨m + 1, .move hp.head (.first x _ _) hm⟩
  | @right b x y a h ih =>
    have hr := hp.tail.right
    rw [Node.length_code] at hr
    obtain ⟨m, hm⟩ := ih hr ha
    exact ⟨m + 1, .move hp.head (.second x _ _) hm⟩
  | skip e greedy x => exact ⟨n + 1, .move hp.head (choice_moves_iff.2 (.inr rfl)) ha⟩
  | once greedy h ih =>
    obtain ⟨m, hm⟩ := ih hp.tail ha
    exact ⟨m + 1, .move hp.head (choice_moves_iff.2 (.inl rfl)) hm⟩
  | last greedy h ih =>
    have hc := hp.right.head
    rw [Node.length_code] at hc
    exact ih hp.left (.move hc (choice_moves_iff.2 (.inr rfl)) ha)
  | again h hs ih ihs =>
    have hc := hp.right.head
    rw [Node.length_code] at hc
    obtain ⟨m, hm⟩ := ihs hp ha
    exact ih hp.left (.move hc (choice_moves_iff.2 (.inl rfl)) hm)
  | leave e greedy x => exact ⟨n + 1, .move hp.head (choice_moves_iff.2 (.inr rfl)) ha⟩
  | round h hs ih ihs =>
    obtain ⟨m, hm⟩ := ihs hp ha
    obtain ⟨k, hk⟩ := ih hp.tail hm
    exact ⟨k + 1, .move hp.head (choice_moves_iff.2 (.inl rfl)) hk⟩

theorem choice_ne_accept (greedy : Bool) (body leave : Nat) :
    Node.choice greedy body leave ≠ .accept := by
  cases greedy <;> exact nofun

theorem choice_ne_consume (greedy : Bool) (body leave : Nat) (cls : CharClass) (next : Nat) :
    Node.choice greedy body leave ≠ .consume cls next := by
  cases greedy <;> exact nofun

/-- A choice is followed by one of the two. -/
theorem Accepts.chosen {n pc body leave : Nat} {greedy : Bool} {x : Cursor} (ha : Accepts p n pc x)
    (hi : p[pc]? = some (Node.choice greedy body leave)) :
    ∃ k, n = k + 1 ∧ (Accepts p k body x ∨ Accepts p k leave x) := by
  obtain ⟨k, next, rfl, hm, ha⟩ := ha.moved hi (choice_ne_accept _ _ _) (choice_ne_consume _ _ _)
  rcases choice_moves_iff.1 hm with rfl | rfl
  · exact ⟨k, rfl, .inl ha⟩
  · exact ⟨k, rfl, .inr ha⟩

/-- Where the code of an expression leads on, the expression leads there. The way from there on is
not longer, which bounds the rounds of a loop. -/
theorem Accepts.leads {e : Node} {x : Cursor} {here next n : Nat}
    (hp : p.Has here (e.code here next)) (ha : Accepts p n here x) :
    ∃ y m, m ≤ n ∧ e.Leads x y ∧ Accepts p m next y := by
  induction e generalizing here next n x with
  | empty =>
    obtain ⟨k, _, rfl, ⟨⟩, ha⟩ := ha.moved hp.head nofun nofun
    exact ⟨x, k, by omega, .empty x, ha⟩
  | chars cls =>
    cases ha with
    | accept _ h => cases hp.head.symm.trans h
    | move h hm _ =>
      cases hp.head.symm.trans h
      cases hm
    | consume h hc ha =>
      cases hp.head.symm.trans h
      exact ⟨_, _, by omega, .chars _ _ hc, ha⟩
  | look condition =>
    obtain ⟨k, _, rfl, hm, ha⟩ := ha.moved hp.head nofun nofun
    cases hm with
    | require _ h => exact ⟨x, k, by omega, .look h, ha⟩
  | group index e ih =>
    obtain ⟨k, _, rfl, ⟨⟩, ha⟩ := ha.moved hp.head nofun nofun
    obtain ⟨y, m, hm, hl, ha⟩ := ih hp.tail.left ha
    have hclose := hp.tail.right.head
    rw [Node.length_code] at hclose
    obtain ⟨j, _, rfl, ⟨⟩, ha⟩ := ha.moved hclose nofun nofun
    exact ⟨y, j, by omega, .group index hl, ha⟩
  | cat a b iha ihb =>
    have hr := hp.right
    rw [Node.length_code] at hr
    obtain ⟨y, m, hm, hla, ha⟩ := iha hp.left ha
    obtain ⟨z, k, hk, hlb, ha⟩ := ihb hr ha
    exact ⟨z, k, by omega, .cat hla hlb, ha⟩
  | alt a b iha ihb =>
    have hr := hp.tail.right
    rw [Node.length_code] at hr
    obtain ⟨k, _, rfl, hmove, ha⟩ := ha.moved hp.head nofun nofun
    cases hmove with
    | first =>
      obtain ⟨y, m, hm, hl, ha⟩ := iha hp.tail.left ha
      exact ⟨y, m, by omega, .left b hl, ha⟩
    | second =>
      obtain ⟨y, m, hm, hl, ha⟩ := ihb hr ha
      exact ⟨y, m, by omega, .right a hl, ha⟩
  | opt e greedy ih =>
    obtain ⟨k, rfl, ha | ha⟩ := ha.chosen hp.head
    · obtain ⟨y, m, hm, hl, ha⟩ := ih hp.tail ha
      exact ⟨y, m, by omega, .once greedy hl, ha⟩
    · exact ⟨x, k, by omega, .skip e greedy x, ha⟩
  | plus e greedy ih =>
    have hc := hp.right.head
    rw [Node.length_code] at hc
    induction n using Nat.strongRecOn generalizing x with
    | ind n round =>
      obtain ⟨y, m, hm, hl, ha⟩ := ih hp.left ha
      obtain ⟨k, rfl, ha | ha⟩ := ha.chosen hc
      · obtain ⟨z, j, hj, hls, ha⟩ := round k (by omega) ha
        exact ⟨z, j, by omega, .again hl hls, ha⟩
      · exact ⟨y, k, by omega, .last greedy hl, ha⟩
  | star e greedy ih =>
    induction n using Nat.strongRecOn generalizing x with
    | ind n round =>
      obtain ⟨k, rfl, ha | ha⟩ := ha.chosen hp.head
      · obtain ⟨y, m, hm, hl, ha⟩ := ih hp.tail ha
        obtain ⟨z, j, hj, hls, ha⟩ := round m (by omega) ha
        exact ⟨z, j, by omega, .round hl hls, ha⟩
      · exact ⟨x, k, by omega, .leave e greedy x, ha⟩

/-- The program of an expression leads from its start to the accepting step just if the expression
leads somewhere. -/
theorem accepts_compile_iff (e : Expr) (x : Cursor) :
    (∃ n, Accepts e.compile n 0 x) ↔ ∃ y, e.expand.Leads x y := by
  let whole := Node.group 0 e.expand
  have hcode : e.compile = (whole.code 0 whole.size ++ [Inst.accept]).toArray := rfl
  have hp : Program.Has e.compile 0 (whole.code 0 whole.size) := by
    intro k i hk
    rw [Nat.zero_add, hcode, List.getElem?_toArray,
      List.getElem?_append_left (List.getElem?_eq_some_iff.1 hk).1, hk]
  have hlast : e.compile[whole.size]? = some .accept := by
    rw [hcode, List.getElem?_toArray, List.getElem?_append_right (by simp), Node.length_code,
      Nat.sub_self]
    rfl
  constructor
  · rintro ⟨n, ha⟩
    obtain ⟨y, -, -, hl, -⟩ := ha.leads hp
    change (Node.group 0 e.expand).Leads x y at hl
    cases hl with
    | group _ hl => exact ⟨y, hl⟩
  · rintro ⟨y, hl⟩
    exact (hl.group 0).accepts hp (.accept y hlast)

end Regex

theorem Regex.parse_eq_ok_iff [Regex.Engine] {pattern : String} {r : Regex} :
    Regex.parse pattern = .ok r ↔
      ∃ e, Expr.parse pattern.toList = .ok e ∧ r = ⟨e, e.compile, e.groupCount⟩ := by
  rw [parse]
  cases he : Expr.parse pattern.toList with
  | error e => simp [bind, Except.bind]
  | ok e => simp [bind, Except.bind, eq_comm]

/-- A regular expression matches a text exactly if its expression leads from some place of the text
to another. -/
theorem Regex.isMatch_iff [Regex.Engine] {pattern : String} {r : Regex}
    (h : Regex.parse pattern = .ok r) (text : List Char) :
    r.isMatch text = true ↔ ∃ first last y, text = first ++ last ∧
      r.expr.expand.Leads ⟨first.getLast?, last⟩ y := by
  obtain ⟨e, -, rfl⟩ := parse_eq_ok_iff.1 h
  rw [isMatch, captures, Option.isSome_map, isSome_search, StartsIn]
  simp only [Option.or_none, exists_and_left, accepts_compile_iff]

end Telemetry
