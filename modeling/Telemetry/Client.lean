import Telemetry.Client.Buffered
import Telemetry.Client.Pool
import Telemetry.Client.Slot
/-!
# Clients

A client buffers snapshots. A flush takes all that is buffered and queues, for each publisher, the
batches it is to receive; a worker dispatches queued batches one after the other. The journal tells
in which order batches were queued and dispatched and publishers let go of.
-/
namespace Telemetry

namespace Client

/-- A batch that is to be dispatched to the publisher at a place. -/
structure Job where
  slot : Nat
  batch : List Snapshot

/-- A step in the life of a client. -/
inductive Entry where
  | queued (job : Job)
  | dispatched (job : Job) (report : Report) (events : List Event)
  | released (slot : Nat)

end Client

structure Client where
  slots : List Slot
  /-- What was sent and not flushed. -/
  queue : Array Snapshot := #[]
  /-- What was flushed and not dispatched. -/
  jobs : List Client.Job := []
  closed : Bool := false
  journal : Array Client.Entry := #[]

namespace Client

/-- Slots for publishers in order, up to the first that is refused. -/
def slotsOf [Regex.Engine] (config : AgentConfig) :
    List Publisher → List Event × Except ConfigError (List Slot)
  | [] => ([], .ok [])
  | publisher :: rest =>
    match Slot.ofPublisher config publisher with
    | (events, .error e) => (events, .error e)
    | (events, .ok slot) =>
      let (later, slots) := slotsOf config rest
      (events ++ later, slots.map (slot :: ·))

/-- A client of some publishers before it has workers, unless the configuration of the agent or of
one of them is refused; with what is to be reported. -/
def ofPublishers [Regex.Engine] (config : AgentConfig) (publishers : List Publisher) :
    List Event × Except ConfigError Client :=
  match config.validate with
  | .error e => ([], .error e)
  | .ok () =>
    let (events, slots) := slotsOf config publishers
    (events, slots.map fun slots => { slots })

/-- What the workers of all clients are named after. -/
def poolName : String := "metrics-agent"

/-- A client of some publishers and its workers, unless it is refused or the machine does not start
them; with what is to be reported. However many workers there are, the jobs of the client are done
one after the other here. -/
def launch [Regex.Engine] (m : Machine) (config : AgentConfig) (publishers : List Publisher) :
    List Event × Made Client :=
  match ofPublishers config publishers with
  | (events, .error e) => (events, .refused (.config e))
  | (events, .ok client) =>
    match (Pool.start m poolName config.workers).map fun _ => client with
    | .ready client =>
      (events ++ [.clientCreated publishers.length config.workers], .ready client)
    | other => (events, other)

def pending (c : Client) : Nat :=
  c.queue.size

def find? (c : Client) (name : String) : Option Slot :=
  c.slots.find? (·.name == name)

/-- Changes the publisher at a place; nothing happens if there is none. -/
def modify (c : Client) (i : Nat) (f : Publisher → Publisher) : Client :=
  { c with slots := c.slots.modify i fun s => { s with publisher := f s.publisher } }

/-- Buffers a snapshot. Nothing is taken in after the client is closed. -/
def send (c : Client) (s : Snapshot) : Client × List Event :=
  if c.closed then (c, [.sentAfterShutdown s.name]) else ({ c with queue := c.queue.push s }, [])

/-- Queues the batches of all that is buffered, publisher by publisher. -/
def submit (c : Client) : Client × List Event :=
  if c.closed || c.queue.isEmpty then (c, [])
  else
    let snapshots := c.queue.toList
    let selected := c.slots.map (·.select snapshots)
    let jobs := selected.zipIdx.flatMap fun ((chosen, slot), i) =>
      (slot.batches chosen).map fun batch => { slot := i, batch }
    ({ c with
        slots := selected.map (·.2)
        queue := #[]
        jobs := c.jobs ++ jobs
        journal := c.journal ++ jobs.map Entry.queued },
      selected.map fun (chosen, slot) =>
        .submittingBatches slot.name snapshots.length chosen.length
          slot.config.effectiveBatchSize)

/-- Does one job. The client is being shut down from the publish call whose number is
`interrupt`. -/
def perform (c : Client) (now : Instant) (job : Job) (interrupt : Option Nat) :
    Option Report × Client :=
  match c.slots[job.slot]? with
  | none => (none, c)
  | some slot =>
    let (report, events, slot) := slot.dispatch now job.batch interrupt
    (some report, { c with
      slots := c.slots.set job.slot slot
      journal := c.journal.push (.dispatched job report events) })

def work (c : Client) (now : Instant) : Client :=
  c.jobs.foldl (fun c job => (c.perform now job none).2) { c with jobs := [] }

def flush (c : Client) (now : Instant) : Client × List Event :=
  let (c, events) := c.submit
  (c.work now, events)

/-- Closes the client, once: jobs that are still queued are given up, and the publishers are let
go of. What is buffered stays there. -/
def shutdown (c : Client) : Client × List Event :=
  if c.closed then (c, [])
  else
    ({ c with
        slots := c.slots.map (·.shutdown)
        jobs := []
        closed := true
        journal := c.journal ++ (List.range c.slots.length).map Entry.released },
      c.slots.map (fun s => .dispatcherStopped s.name) ++ [.clientShutDown c.queue.size])

/-- Does jobs in order, and is shut down from within the publish call number `k` to the publisher
at place `i`, or in the end if it comes to no such call. -/
def workUntilCall (now : Instant) (i : Nat) : (k : Nat) → List Job → Client → Client × List Event
  | _, [], c => c.shutdown
  | k, job :: rest, c =>
    if job.slot = i then
      match c.perform now job (some k) with
      | (some report, c) =>
        if k < report.calls then c.shutdown else workUntilCall now i (k - report.calls) rest c
      | (none, c) => workUntilCall now i k rest c
    else workUntilCall now i k rest (c.perform now job none).2

/-- A flush in which the client is shut down from within the publish call number `k` to the
publisher at place `i`. That call comes to its end but is not repeated. -/
def flushInterrupted (c : Client) (now : Instant) (i k : Nat) : Client × List Event :=
  let (c, events) := c.submit
  let (c, later) := workUntilCall now i k c.jobs { c with jobs := [] }
  (c, events ++ later)

instance : BufferedClient Client where
  send := send
  flush now c := c.flush now
  shutdown := shutdown

end Client

end Telemetry
