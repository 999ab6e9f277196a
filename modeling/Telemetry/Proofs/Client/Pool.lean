import Telemetry.Client.Pool
/-!
# Which pools start

Main statements: a pool panics just if the handles of its threads take more bytes than a piece of
memory may have; with memory for them, it is there if the machine starts every thread, and else the
first thread that is refused is the reason that it is not.
-/
namespace Telemetry.Pool

/-- The handles of so many threads fit into a piece of memory, and there is one. -/
structure Holds (m : Machine) (threads : Nat) : Prop where
  addressable : threads * m.handleSize ≤ maxBytes
  room : m.hasRoom (threads * m.handleSize) = true

/-- All workers can be started. -/
def Starts (m : Machine) (name : String) (threads : Nat) : Prop :=
  ∀ id < threads, m.refusal? (workerName name id) = none

/-- A worker cannot be started, and the first that cannot gives the error. -/
def Refuses (m : Machine) (name : String) (threads : Nat) (e : AgentError) : Prop :=
  ∃ id < threads, Starts m name id ∧
    ∃ reason, m.refusal? (workerName name id) = some reason ∧ .spawn (workerName name id) reason = e

variable {m : Machine} {name : String} {threads : Nat}

theorem start_eq_panicked_iff :
    start m name threads = .panicked ↔ maxBytes < threads * m.handleSize := by
  grind [start]

theorem start_of_holds (h : Holds m threads) : start m name threads =
    match ((List.range threads).map (workerName name)).findSome? m.spawn? with
    | some e => .refused e
    | none => .ready ((List.range threads).map (workerName name)) := by
  rw [start, if_neg (Nat.not_lt.2 h.addressable)]
  exact if_pos h.room

theorem start_of_not_holds (name : String) (h : ¬ Holds m threads) :
    start m name threads = .panicked ∨ start m name threads = .exhausted := by
  rw [start]
  split
  · exact .inl rfl
  next hb =>
    exact .inr (if_neg fun hr => h ⟨Nat.not_lt.1 hb, hr⟩)

theorem start_eq_ready_iff {workers : List String} : start m name threads = .ready workers ↔
    Holds m threads ∧ Starts m name threads ∧
      (List.range threads).map (workerName name) = workers := by
  by_cases h : Holds m threads
  · have hn : ((List.range threads).map (workerName name)).findSome? m.spawn? = none ↔
        Starts m name threads := by
      simp [List.findSome?_eq_none_iff, Machine.spawn?, Starts]
    rw [start_of_holds h, ← hn]
    split
    next first hf => simp [hf]
    next hn => simp [hn, h]
  · rcases start_of_not_holds name h with he | he <;> simp [he, h]

theorem findSome?_spawn?_eq_some_iff {e : AgentError} :
    ((List.range threads).map (workerName name)).findSome? m.spawn? = some e ↔
      Refuses m name threads e := by
  rw [List.findSome?_map, List.findSome?_eq_some_iff]
  constructor
  · rintro ⟨before, id, after, hr, he, hb⟩
    rw [List.range_eq_range', List.range'_eq_append_iff] at hr
    obtain ⟨k, hk, rfl, hr⟩ := hr
    obtain ⟨hid, hpos, -⟩ := List.range'_eq_cons_iff.1 hr.symm
    obtain rfl : k = id := by omega
    refine ⟨k, by omega, fun j hj => ?_, Option.map_eq_some_iff.1 he⟩
    exact Option.map_eq_none_iff.1 (hb j (List.mem_range'_1.2 ⟨Nat.zero_le _, by omega⟩))
  · rintro ⟨id, hid, hb, he⟩
    obtain ⟨later, rfl⟩ := Nat.exists_eq_add_of_lt hid
    have hr : List.range (id + later + 1) =
        List.range id ++ id :: ((List.range later).map Nat.succ).map (id + ·) := by
      rw [Nat.add_assoc, List.range_add, List.range_succ_eq_map, List.map_cons, Nat.add_zero]
    refine ⟨_, id, _, hr, Option.map_eq_some_iff.2 he, fun j hj => ?_⟩
    exact Option.map_eq_none_iff.2 (hb j (List.mem_range.1 hj))

theorem start_eq_refused_iff {e : AgentError} : start m name threads = .refused e ↔
    Holds m threads ∧ Refuses m name threads e := by
  by_cases h : Holds m threads
  · rw [start_of_holds h, ← findSome?_spawn?_eq_some_iff]
    split
    next first hf => simp [hf, h]
    next hn => simp [hn]
  · rcases start_of_not_holds name h with he | he <;> simp [he, h]

end Telemetry.Pool
