import Telemetry.Config.Error
/-!
# Worker pools

A client has threads of its own for its batches. Their handles are kept in one piece of memory,
which is taken first; then the threads are started one after the other, up to the first that is
refused. What the machine has to give is a parameter.
-/
namespace Telemetry

/-- What a machine gives to a program. Each thread of the program has a name of its own. -/
structure Machine where
  /-- The bytes that the handle of a thread takes. -/
  handleSize : Nat
  /-- Whether there is a free piece of memory of so many bytes. -/
  hasRoom : Nat → Bool
  /-- Why the thread of some name cannot be started, if it cannot. -/
  refusal? : String → Option String

/-- Starts every thread and never runs out of memory. -/
def Machine.willing : Machine where
  handleSize := 24
  hasRoom _ := true
  refusal? _ := none

/-- Why a client or an agent is not made, or an agent not started. -/
inductive AgentError where
  | config (e : ConfigError)
  | spawn (thread reason : String)
deriving DecidableEq, Repr

def AgentError.message : AgentError → String
  | config e => e.message
  | spawn thread reason => "failed to spawn background thread `" ++ thread ++ "`: " ++ reason

/-- The error with which the start of a thread ends, if it is refused. -/
def Machine.spawn? (m : Machine) (thread : String) : Option AgentError :=
  (m.refusal? thread).map (.spawn thread)

/-- How the making of something ends. -/
inductive Made (α : Type) where
  | ready (value : α)
  | refused (error : AgentError)
  /-- With a panic of the caller, who asked for more memory than has addresses. -/
  | panicked
  /-- With the end of the whole program, for want of memory. -/
  | exhausted

namespace Made

variable {α β : Type} {made : Made α} {f : α → β}

def map (f : α → β) : Made α → Made β
  | ready value => ready (f value)
  | refused e => refused e
  | panicked => panicked
  | exhausted => exhausted

theorem map_eq_ready_iff {y : β} : made.map f = .ready y ↔ ∃ x, made = .ready x ∧ f x = y := by
  cases made <;> simp [map]

theorem map_eq_refused_iff {e : AgentError} : made.map f = .refused e ↔ made = .refused e := by
  cases made <;> simp [map]

theorem map_eq_panicked_iff : made.map f = .panicked ↔ made = .panicked := by
  cases made <;> simp [map]

end Made

namespace Pool

/-- The most bytes that a piece of memory may have. -/
def maxBytes : Nat := UInt64.size / 2 - 1

def workerName (name : String) (id : Nat) : String :=
  name ++ "-worker-" ++ Nat.repr id

/-- Starts the threads of a pool; they are known by their names. -/
def start (m : Machine) (name : String) (threads : Nat) : Made (List String) :=
  let bytes := threads * m.handleSize
  if maxBytes < bytes then .panicked
  else if m.hasRoom bytes then
    let workers := (List.range threads).map (workerName name)
    match workers.findSome? m.spawn? with
    | some e => .refused e
    | none => .ready workers
  else .exhausted

end Pool

end Telemetry
