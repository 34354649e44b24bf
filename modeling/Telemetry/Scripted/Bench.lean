import Telemetry.Assembly.Bundle
import Telemetry.Scripted.Raise
import Telemetry.Scripted.Roster

/-! # Dummy providers

Providers that count how often they are shut down and keep the timeouts of their flushes. Some do
not come back from a shutdown until they are released. -/

namespace Telemetry.Scripted

/-- What a shutdown does. Providers that meet wait until each of them is being shut down, which is
so at once when each has a worker of its own. -/
inductive Conduct
  | ends (how : Ending)
  | hangs (how : Ending)
  | meets
  | missing

structure Dummy where
  conduct : Conduct := .ends .returned
  flush : Except Fault Datum := .ok (.bool true)
  shutdowns : Nat := 0
  flushes : List Datum := []

namespace Dummy

/-- How a shutdown ends that has begun, if it ends. -/
def ending? (released : Bool) (d : Dummy) : Option Ending :=
  match d.conduct with
  | .ends how => some how
  | .hangs how => if released then some how else none
  | .meets => some .returned
  | .missing => some (.raised (.noMember "FakeProvider" "shutdown"))

/-- A shutdown begins. One that cannot be called is not counted. -/
def begin (d : Dummy) : Dummy :=
  match d.conduct with
  | .missing => d
  | _ => { d with shutdowns := d.shutdowns + 1 }

end Dummy

structure Bench where
  dummies : OrderedMap String Dummy
  released : Bool := false

namespace Bench

def update (b : Bench) (provider : String) (f : Dummy → Dummy) : Bench :=
  match b.dummies.get? provider with
  | some d => { b with dummies := b.dummies.insert provider (f d) }
  | none => b

def ended (b : Bench) (provider : String) : Option Ending :=
  match b.dummies.get? provider with
  | some d => d.ending? b.released
  | none => none

def shut (provider : String) : StateM Bench (Option Ending) := do
  modify fun b => b.update provider Dummy.begin
  return (← get).ended provider

def flushOne (timeout : Datum) (provider : String) : ExceptT Fault (StateM Bench) Datum := do
  match (← get).dummies.get? provider with
  | some d =>
    modify fun b => b.update provider fun d => { d with flushes := d.flushes ++ [timeout] }
    match d.flush with
    | .ok value => return value
    | .error f => throw f
  | none => return .bool true

/-- Flushes the providers of a bundle, in shutdown order whatever the order on the bench. -/
def flush (timeout : Datum) : ExceptT Fault (StateM Bench) Datum :=
  flushAll (providerNames.map (flushOne timeout))

end Bench

/-- A coordinator for the providers of a bench, and what it has logged. -/
structure Trial where
  bench : Bench
  coordinator : Coordinator
  /-- The names in the map that the coordinator was made from, which it needs no longer. -/
  names : List String
  journal : List Event := []

namespace Trial

def ofBench (bench : Bench) (timeout : Quantity) : Trial :=
  let names := bench.dummies.keys
  { bench, coordinator := .ofProviders names timeout, names }

def arm (t : Trial) : Trial := { t with coordinator := t.coordinator.arm }

def shutdown (t : Trial) : Except Fault Bool × Trial :=
  let ((result, coordinator, events), bench) := (t.coordinator.shutdown Bench.shut).run t.bench
  (result, { t with bench, coordinator, journal := t.journal ++ events })

def settle (t : Trial) : Trial :=
  let ((coordinator, events), bench) := (t.coordinator.runWorkers Bench.shut).run t.bench
  { t with bench, coordinator, journal := t.journal ++ events }

/-- Several callers at once: all of them find the same workers. The verdicts of those that do not
fail. -/
def race (t : Trial) : Nat → List Bool × Trial
  | 0 => ([], t.settle)
  | n + 1 =>
    let (result, t) := t.shutdown
    let (results, t) := t.race n
    (result.toOption.toList ++ results, t)

/-- Releases the providers that hang, and lets all workers end. -/
def release (t : Trial) : Trial :=
  let t := { t with bench := { t.bench with released := true } }.settle
  let (coordinator, events) := t.coordinator.resumeWorkers t.bench.ended
  { t with coordinator, journal := t.journal ++ events }

/-- Takes a name out of the map that the coordinator was made from. -/
def remove (t : Trial) (name : String) : Except Fault Unit × Trial :=
  if t.names.contains name then (.ok (), { t with names := t.names.erase name })
  else (.error (fault "KeyError" name), t)

/-- The providers whose worker is still alive. -/
def alive (t : Trial) : List String :=
  (t.coordinator.workers.filter fun w => w.phase = .waiting ∨ w.phase = .running).map (·.provider)

def takeLog (t : Trial) : List Event × Trial := (t.journal, { t with journal := [] })

end Trial

structure Fleet where
  benches : List Bench
  roster : Roster

namespace Fleet

/-- The number of a bundle; one that is not there is a missing key. -/
def find (f : Fleet) (name : String) : Except Fault Nat :=
  match f.roster.number? name with
  | some n => .ok n
  | none => .error (fault "KeyError" name)

def ofBenches (named : OrderedMap String Bench) : Fleet :=
  { benches := named.values
    roster := named.keys.foldl
      (fun r name =>
        let (n, estate) := r.estate.enroll
        { r with estate }.enter name n)
      {} }

def shut (n : Nat) (provider : String) : StateM (List Bench) (Option Ending) := fun benches =>
  match benches[n]? with
  | some b =>
    let (ending, b) := (Bench.shut provider).run b
    (ending, benches.set n b)
  | none => (some .returned, benches)

end Fleet

end Telemetry.Scripted
