import Telemetry.Assembly.Builder
import Telemetry.Assembly.Running
import Telemetry.Scripted.Host
import Telemetry.Scripted.Roster

/-! # Sessions

A builder over the scripted host, the bundles it has built, and what is done with them. -/

namespace Telemetry.Scripted

structure Session where
  own : State := {}
  builder : Builder stage := { loader := .static }
  roster : Roster := {}
  bundles : List (Bundle stage) := []

namespace Session

/-- Registers by the operation that belongs to a kind, if there is one. -/
def offer (s : Session) (kind : Datum) (fn : Fn) : Except Fault Session := do
  let registry ← offerByName "AutoConfiguredSdkBuilder" s.builder.registry kind fn
  return { s with builder := { s.builder with registry } }

def offerSupplier (s : Session) (supplier : Offer Supplier) : Except Fault Session := do
  let registry ← s.builder.registry.offerSupplier supplier
  return { s with builder := { s.builder with registry } }

def setProperties (s : Session) (source : Option Source) : Except Fault Session := do
  let builder ← s.builder.setProperties (source.map .ofSource)
  return { s with builder }

/-- Uses a loader; one with fixed plugins comes with them. -/
def setLoader (s : Session) (loader : Option (LoaderChoice × StaticLoader Plugin)) :
    Except Fault Session := do
  let builder ← s.builder.setLoader (loader.map Prod.fst)
  match loader with
  | some (.static, plugins) => return { s with builder, own := { s.own with loader := plugins } }
  | _ => return { s with builder }

def buildWith (s : Session) (builder : Builder stage) (name : String) :
    Except Fault (Nat × Bundle stage) × Builder stage × Session :=
  let built := builder.build host s.own s.roster.estate
  let s := { s with own := built.own, roster := { s.roster with estate := built.estate } }
  match built.outcome with
  | .error f => (.error f, built.builder, s)
  | .ok (n, bundle) =>
    (.ok (n, bundle), built.builder,
      { s with roster := s.roster.enter name n, bundles := s.bundles ++ [bundle] })

def build (s : Session) (name : String) : Except Fault (Nat × Bundle stage) × Session :=
  let (result, builder, s) := s.buildWith s.builder name
  (result, { s with builder })

def buildStandard (s : Session) (name : String) : Except Fault (Nat × Bundle stage) × Session :=
  let (result, _, s) := s.buildWith (.standard .entryPoints) name
  (result, s)

/-- Does something with the bundle of a number. -/
def deed {α : Type} (s : Session) (n : Nat) (idle : α) (act : Bundle.Deed stage α) :
    Except Fault α × Session :=
  match s.bundles[n]? with
  | some bundle =>
    let (result, own, bundle) := act.run (s.own, bundle)
    (result, { s with own, bundles := s.bundles.set n bundle })
  | none => (.ok idle, s)

def recordSpans (s : Session) (n : Nat) (spans : List (String × List (String × Datum))) :
    Except Fault Unit × Session :=
  s.deed n () (spans.forM fun (name, attributes) => Bundle.recordSpan host name attributes)

def recordLogs (s : Session) (n : Nat) (bodies : List Datum) : Except Fault Unit × Session :=
  s.deed n () (bodies.forM (Bundle.recordLog host))

/-- Flushes a bundle. The points that metric exporters receive are kept until the next flush. -/
def flush (s : Session) (n : Nat) (millis : Datum) : Except Fault Datum × Session :=
  { s with own := { s.own with readings := .empty } }.deed n .null (Bundle.flush host millis)

/-- The points of the last flush, by exporter in alphabetical order. -/
def readings (s : Session) : List (String × List Point) :=
  s.own.readings.entries.mergeSort fun a b => a.1 ≤ b.1

def shut (n : Nat) (provider : String) : StateM Session (Option Ending) := fun s =>
  match s.deed n () (Bundle.shutdownProvider host provider) with
  | (.ok (), s) => (some .returned, s)
  | (.error f, s) => (some (.raised f), s)

end Session

end Telemetry.Scripted
