import Telemetry.Customizer.Customized
import Telemetry.Exporter.Basic
import Telemetry.Processor.Limits

/-! # Processors

A simple processor exports each item at once, a batch processor collects items for all its
exporters. The exporter named `logging` gets a simple processor, all others share one batch
processor. -/

namespace Telemetry

structure BatchProcessor (ε τ : Type) where
  signal : Signal
  exporters : List (Customized τ (Exporter ε))
  limits : BatchLimits
  queue : List Item := []
  closed : Bool := false

namespace BatchProcessor
variable {ε τ : Type}

/-- An item joins the queue. The worker keeps the queue from overflowing; without a worker a full
queue loses its oldest items. -/
def enqueue (b : BatchProcessor ε τ) (item : Item) : BatchProcessor ε τ :=
  let queue := b.queue ++ [item]
  if b.limits.isWaitable then { b with queue }
  else { b with queue := queue.drop (queue.length - b.limits.maxQueueSize.toNat) }

end BatchProcessor

inductive Processor (ε τ : Type)
  | simple (exporter : Customized τ (Exporter ε)) (closed : Bool)
  | batch (processor : BatchProcessor ε τ)

namespace Processor
variable {ε τ : Type}

def immediate (e : Customized τ (Exporter ε)) : Processor ε τ := .simple e false

def batching (signal : Signal) (exporters : List (Customized τ (Exporter ε)))
    (settings : BatchSettings) : Except Fault (Processor ε τ) :=
  let limits := settings.limits (.standard signal)
  match limits.check with
  | .error fault => .error fault
  | .ok () => .ok (.batch { signal, exporters, limits })

/-- The processors for exporters by name, the immediate one first. The batch settings are read only
when there is something to batch, and not at all without properties. -/
def configure (signal : Signal) (exporters : OrderedMap String (Customized τ (Exporter ε)))
    (properties : Option Properties) : Except Fault (List (Processor ε τ)) := do
  let first :=
    match exporters.get? Names.logging with
    | some e => if e.isNothing then [] else [immediate e]
    | none => []
  let others := exporters.erase Names.logging
  if others.isEmpty then return first
  let settings ← match properties with
    | some p => BatchSettings.read p (BatchSettings.keys signal)
    | none => pure {}
  return first ++ [← batching signal others.values settings]

end Processor

end Telemetry
