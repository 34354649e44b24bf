import Telemetry.Event
import Telemetry.Shutdown.Deadline

/-! # Coordinated shutdown

Every provider is shut down by a worker of its own, so that a slow one does not delay the others.
The workers are started when the coordinator is armed and wait for the trigger. A caller of shutdown
pulls the trigger, waits for each provider up to a common deadline, and gives the verdict.

The functions here are the single steps; any number of callers and workers may take them in any
order. -/

namespace Telemetry

/-- What became of one provider's shutdown. -/
inductive Ending
  | returned
  | raised (fault : Fault)

/-- A worker that could not be started never does anything. One whose call has ended is not done yet:
it records a failure before. -/
inductive Phase
  | unstarted
  | waiting
  | running
  | ended
  | finished
  deriving DecidableEq

structure Worker where
  provider : String
  phase : Phase

structure Coordinator where
  providers : List String
  timeout : Quantity
  armed : Bool := false
  triggered : Bool := false
  /-- All workers in the order in which they were started. -/
  workers : List Worker := []
  /-- The worker whose end counts for a provider. -/
  awaited : OrderedMap String Nat := .empty
  errors : OrderedMap String Fault := .empty

def providerNames : List String := ["tracer_provider", "meter_provider", "logger_provider"]

/-- The time that shutdown waits when none is given. -/
def defaultShutdownTimeout : Quantity := .real (.ofInt 10)

namespace Coordinator

def ofProviders (providers : List String) (timeout : Quantity) : Coordinator :=
  { providers := providers.eraseDups, timeout }

/-- Adds a worker for a provider, whose end will count. -/
def addWorker (c : Coordinator) (provider : String) (phase : Phase) : Coordinator :=
  { c with
    workers := c.workers ++ [⟨provider, phase⟩]
    awaited := c.awaited.insert provider c.workers.length }

/-- Starts the workers up to the first that cannot be started; the others stay without one. -/
def startAll (starts : String → Bool) (c : Coordinator) : List String → Bool × Coordinator
  | [] => (true, c)
  | provider :: rest =>
    if starts provider then (c.addWorker provider .waiting).startAll starts rest
    else (false, c.addWorker provider .unstarted)

/-- Arms a coordinator whose workers may fail to start; it is armed only if all have started. -/
def armWith (starts : String → Bool) (c : Coordinator) : Bool × Coordinator :=
  if c.armed then (true, c)
  else
    match c.startAll starts c.providers with
    | (true, c) => (true, { c with armed := true })
    | (false, c) => (false, c)

/-- Starts one waiting worker per provider, once. -/
def arm (c : Coordinator) : Coordinator := (c.armWith fun _ => true).2

def trigger (c : Coordinator) : Coordinator := { c with triggered := true }

def setPhase (c : Coordinator) (i : Nat) (phase : Phase) : Coordinator :=
  { c with workers := c.workers.modify i fun w => { w with phase } }

/-- Whether a worker may now call its provider's shutdown. -/
def canBegin (c : Coordinator) (i : Nat) : Bool :=
  c.triggered && (c.workers[i]?.map (·.phase) == some .waiting)

def begin (c : Coordinator) (i : Nat) : Coordinator :=
  if c.canBegin i then c.setPhase i .running else c

/-- A worker's call has ended, and a failure is recorded. A request to leave the program is no
failure. -/
def settle (c : Coordinator) (i : Nat) (ending : Ending) : Coordinator × List Event :=
  match c.workers[i]? with
  | some ⟨provider, .running⟩ =>
    match ending with
    | .returned => (c.setPhase i .ended, [])
    | .raised f =>
      if f.exits then (c.setPhase i .ended, [])
      else
        ({ c with errors := c.errors.insert provider f }.setPhase i .ended,
          [.shutdownFailed provider f.text])
  | _ => (c, [])

/-- A worker whose call has ended is done, however the call ended. -/
def signal (c : Coordinator) (i : Nat) : Coordinator :=
  if c.workers[i]?.map (·.phase) == some .ended then c.setPhase i .finished else c

def finish (c : Coordinator) (i : Nat) (ending : Ending) : Coordinator × List Event :=
  let (c, events) := c.settle i ending
  (c.signal i, events)

/-- How far the worker has come that counts for a provider. -/
def phase? (c : Coordinator) (provider : String) : Option Phase :=
  match c.awaited.get? provider with
  | some i => c.workers[i]?.map (·.phase)
  | none => none

/-- Whether the worker that counts for a provider is done. -/
def isDone (c : Coordinator) (provider : String) : Bool := c.phase? provider == some .finished

/-- The providers that are still pending when everything that is not done by now never will be. -/
def pending (c : Coordinator) : List String :=
  (Deadline.waitAll c.timeout.toRat 0
    (c.awaited.keys.map fun p => (p, if c.isDone p then some 0 else none))).1

/-- Why a caller cannot wait, if it cannot: its deadline is no number, or there is something to wait
for and the wait is too long to be counted. -/
def refusal? (c : Coordinator) : Option Fault :=
  if !c.timeout.isReal then some (.overflow .real)
  else if Deadline.canWait c.timeout || c.awaited.keys.all c.isDone then none
  else some (.overflow .wait)

/-- Whether a caller waits at all. A wait of less than a microsecond is over before it begins. -/
def waits (c : Coordinator) : Bool := 1 ≤ c.timeout.toRat * 1000000

/-- The verdict of a caller that found these providers pending. -/
def verdict (c : Coordinator) (pending : List String) : Bool × Event :=
  if pending.isEmpty then
    (c.errors.isEmpty, .shutdownComplete c.providers c.errors.keys)
  else (false, .shutdownTimedOut pending c.timeout.toDatum)

/-- Lets a worker go on if its provider's shutdown has ended meanwhile. -/
def resumeWorker (ended : String → Option Ending) (c : Coordinator) (i : Nat) :
    Coordinator × List Event :=
  match c.workers[i]? with
  | some w =>
    match ended w.provider with
    | some ending => c.finish i ending
    | none => (c, [])
  | none => (c, [])

def resumeWorkers (ended : String → Option Ending) (c : Coordinator) : Coordinator × List Event :=
  (List.range c.workers.length).foldl
    (fun s i =>
      let (c, more) := s.1.resumeWorker ended i
      (c, s.2 ++ more))
    (c, [])

section
variable {m : Type → Type} [Monad m] (shut : String → m (Option Ending))

/-- Lets one worker run as far as it comes: it may begin, and it ends unless its provider's
shutdown is still under way. -/
def runWorker (c : Coordinator) (i : Nat) : m (Coordinator × List Event) :=
  match c.workers[i]? with
  | some w =>
    if c.canBegin i then do
      let c := c.begin i
      match ← shut w.provider with
      | some ending => return c.finish i ending
      | none => return (c, [])
    else pure (c, [])
  | none => pure (c, [])

def runWorkers (c : Coordinator) : m (Coordinator × List Event) :=
  (List.range c.workers.length).foldlM
    (fun (c, events) i => do
      let (c, more) ← c.runWorker shut i
      return (c, events ++ more))
    (c, [])

/-- One call of shutdown. The workers run while the caller waits; a caller that does not wait, or
cannot, is done before any of them. -/
def shutdown (c : Coordinator) : m (Except Fault Bool × Coordinator × List Event) := do
  let c := c.arm.trigger
  match c.refusal? with
  | some f => return (.error f, c, [])
  | none =>
    let (c, events) ← if c.waits then runWorkers shut c else pure (c, [])
    let (verdict, event) := c.verdict c.pending
    return (.ok verdict, c, events ++ [event])

end

end Coordinator

end Telemetry
