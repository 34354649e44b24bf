import Telemetry.Exporter.FanOut
import Telemetry.Host
import Telemetry.Provider.Meter

/-! # Processors at work

What a processor does with an item, when it is flushed and when it is closed. An exporter's fault
ends with the processor; only a request to leave the program goes on. -/

namespace Telemetry

/-- The state that pipelines share: the outside, and the counters they report to. -/
structure Pipeline (W : Outside) where
  own : W.State
  counters : Counters

abbrev Live (W : Outside) (α : Type) := StateM (Pipeline W) α

/-- Cuts a queue into batches of a given size, the last one perhaps shorter. -/
def batches {α : Type} (size : Nat) : List α → List (List α)
  | [] => []
  | x :: rest =>
    if size = 0 then [x :: rest]
    else (x :: rest.take (size - 1)) :: batches size (rest.drop (size - 1))
termination_by queue => queue.length
decreasing_by simp only [List.length_drop, List.length_cons]; omega

variable {W : Outside}

def Act.live {α : Type} (act : Act W α) : ExceptT Fault (StateM (Pipeline W)) α :=
  ExceptT.mk fun s =>
    let (result, own) := act.run s.own
    (result, { s with own })

/-- What is left of a result once failures are dropped. -/
def swallow {α : Type} : Except Fault α → Except Fault Unit
  | .ok _ => .ok ()
  | .error f => if f.exits then .error f else .ok ()

def Host.liveChannel (host : Host W) :
    Customized W.Thing (Exporter W.Exporter) → Channel (ExceptT Fault (StateM (Pipeline W))) Item
  | .proper e => (host.channel e).lift Act.live
  | .stray s => .improper s.typeName

namespace BatchProcessor

def channel (host : Host W) (b : BatchProcessor W.Exporter W.Thing) :
    Channel (ExceptT Fault (StateM (Pipeline W))) Item :=
  metered
    (fun amount succeeded =>
      modify fun s => { s with counters := s.counters.add b.signal amount succeeded })
    (fanOut (b.exporters.map host.liveChannel))

/-- Sends batches in order, going on after failures. The batches that are left when the program is
to be left come back. -/
def sendAll (host : Host W) (b : BatchProcessor W.Exporter W.Thing) :
    List (List Item) → Live W (List (List Item) × Except Fault Unit)
  | [] => return ([], .ok ())
  | batch :: rest => do
    match swallow (← ((b.channel host).send batch).run) with
    | .error f => return (rest, .error f)
    | .ok () => sendAll host b rest

def drain (host : Host W) (b : BatchProcessor W.Exporter W.Thing) :
    Live W (BatchProcessor W.Exporter W.Thing × Except Fault Unit) := do
  let (left, result) ← b.sendAll host (batches b.limits.maxExportBatchSize.toNat b.queue)
  return ({ b with queue := left.flatten }, result)

end BatchProcessor

namespace Processor

/-- An item arrives. Items wait in the queue of a batch processor until it is flushed or closed. -/
def receive (host : Host W) (item : Item) :
    Processor W.Exporter W.Thing → Live W (Processor W.Exporter W.Thing × Except Fault Unit)
  | .simple e closed => do
    if closed then return (.simple e closed, .ok ())
    return (.simple e closed, swallow (← ((host.liveChannel e).send [item]).run))
  | .batch b =>
    return (.batch (if b.closed then b else b.enqueue item), .ok ())

/-- A flush answers whether everything was exported; after closing a batch processor it is not. -/
def flush (host : Host W) :
    Processor W.Exporter W.Thing → Live W (Processor W.Exporter W.Thing × Except Fault Bool)
  | .simple e closed => return (.simple e closed, .ok true)
  | .batch b => do
    if b.closed then return (.batch b, .ok false)
    let (b, result) ← b.drain host
    return (.batch b, result.map fun _ => true)

/-- What is queued is still exported, by the worker if there is one, and then the exporter is
closed. Only the fault of closing goes to the caller. -/
def close (host : Host W) :
    Processor W.Exporter W.Thing → Live W (Processor W.Exporter W.Thing × Except Fault Unit)
  | .simple e _ => return (.simple e true, ← (host.liveChannel e).close.run)
  | .batch b => do
    if b.closed then return (.batch b, .ok ())
    let b ← if b.limits.isWaitable then Prod.fst <$> b.drain host else pure b
    return (.batch { b with closed := true }, ← (b.channel host).close.run)

variable {α : Type}

/-- Does something with each processor in turn, as long as the result lets it go on. -/
def overAll (goesOn : α → Bool) (whenAll : α)
    (act : Processor W.Exporter W.Thing → Live W (Processor W.Exporter W.Thing × Except Fault α)) :
    List (Processor W.Exporter W.Thing) →
      Live W (List (Processor W.Exporter W.Thing) × Except Fault α)
  | [] => return ([], .ok whenAll)
  | p :: rest => do
    match ← act p with
    | (p, .error f) => return (p :: rest, .error f)
    | (p, .ok a) =>
      if goesOn a then
        let (rest, result) ← overAll goesOn whenAll act rest
        return (p :: rest, result)
      else return (p :: rest, .ok a)

def receiveAll (host : Host W) (item : Item) (ps : List (Processor W.Exporter W.Thing)) :
    Live W (List (Processor W.Exporter W.Thing) × Except Fault Unit) :=
  overAll (fun _ => true) () (receive host item) ps

/-- A flush ends with the first processor that was not flushed. -/
def flushAll (host : Host W) (ps : List (Processor W.Exporter W.Thing)) :
    Live W (List (Processor W.Exporter W.Thing) × Except Fault Bool) :=
  overAll id true (flush host) ps

/-- Closing ends with the first fault. -/
def closeAll (host : Host W) (ps : List (Processor W.Exporter W.Thing)) :
    Live W (List (Processor W.Exporter W.Thing) × Except Fault Unit) :=
  overAll (fun _ => true) () (close host) ps

end Processor

end Telemetry
