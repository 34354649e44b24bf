import Telemetry.Exporter.Metered
import Telemetry.Scripted.Recorder

/-! # Gauges

A recording exporter behind a counter. -/

namespace Telemetry.Scripted

structure Gauge where
  counter : ProcessedCounter
  own : State := {}

namespace Gauge

abbrev Use (α : Type) := ExceptT Fault (StateM Gauge) α

def count (amount : Nat) (succeeded : Bool) : Use Unit :=
  modify fun g => { g with counter := g.counter.add (.whole amount) succeeded }

def notANumber (d : Datum) : Fault := typeError s!"must be real number, not {d.typeName}"

/-- Counts something besides the exporter's batches. -/
def record (amount : Datum) (succeeded : Bool) : Use Unit := do
  let some amount := Quantity.ofDatum? amount | throw (notANumber amount)
  match (← get).counter.record amount succeeded with
  | .ok counter => modify fun g => { g with counter }
  | .error f => throw f

def points : Use (List Point) := do
  let (result, counter) := (← get).counter.read
  modify fun g => { g with counter }
  match result with
  | .ok points => return points
  | .error f => throw f

def inside {α : Type} (act : Act stage α) : Use α := ExceptT.mk fun g =>
  let (result, own) := (StateT.run (ExceptT.run act) g.own : Except Fault α × State)
  (result, { g with own })

/-- The channel of an exporter that is counted. -/
def channel (id : String) (b : Behavior) : Channel (ExceptT Fault (StateM Gauge)) Item :=
  metered count ((recorder id b).lift inside)

/-- What the exporter was called with since it was last asked. -/
def takeUses (g : Gauge) : List Scripted.Use × Gauge :=
  let (uses, own) := g.own.takeUses
  (uses.flatMap Prod.snd, { g with own })

end Gauge

end Telemetry.Scripted
