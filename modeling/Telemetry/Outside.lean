import Telemetry.Customizer.Kind
import Telemetry.Propagator
import Telemetry.Provider.TracerSettings

/-! # Code from outside

The library runs code that it is handed: customizers, suppliers of settings, plugins and their
loader, exporters, generators of ids. An `Outside` names the kinds of such things, a `Registry`
keeps those registered. -/

namespace Telemetry

/-- The things that come from outside, and the state that they share. -/
structure Outside where
  Customizer : Type
  Supplier : Type
  Plugin : Type
  Loader : Type
  Exporter : Type
  IdGenerator : Type
  /-- Whatever else outside code passes around. -/
  Thing : Type
  State : Type

/-- What customizers of each kind are for. -/
abbrev Component (W : Outside) : Kind → Type
  | .tracerProvider => TracerSettings W.Exporter W.IdGenerator W.Thing
  | .propagator => Propagator
  | .spanExporter => Exporter W.Exporter
  | .resource => Resource
  | .sampler => Sampler

/-- What a customizer of each kind receives and returns. -/
abbrev Artifact (W : Outside) (k : Kind) : Type := Customized W.Thing (Component W k)

/-- One element of a chain: a customizer, or a plugin that configures tracer settings in place. -/
inductive Link (W : Outside)
  | customizer (c : W.Customizer)
  | configurer (p : W.Plugin)

/-- Something that was registered. -/
inductive Addition (W : Outside)
  | customizer (kind : Kind) (link : Link W)
  | supplier (s : W.Supplier)

/-- Something handed in where a function is expected. -/
inductive Offer (α : Type)
  | function (f : α)
  | value (d : Datum)

/-- The function, or the fault of handing in something else in this role. -/
def Offer.accept {α : Type} (role : String) : Offer α → Except Fault α
  | function f => .ok f
  | value d => .error (.notAFunction role d.typeName)

/-- What is handed in as a customizer. The kind is checked first. -/
def Addition.ofCustomizer {W : Outside} (kind : Datum) (customizer : Offer W.Customizer) :
    Except Fault (Addition W) := do
  let k ← Kind.ofDatum kind
  let c ← customizer.accept "customizer"
  return .customizer k (.customizer c)

def Addition.ofSupplier {W : Outside} (supplier : Offer W.Supplier) : Except Fault (Addition W) := do
  return .supplier (← supplier.accept "supplier")

/-- One chain for each kind, and the suppliers, each in the order of registration. -/
structure Registry (W : Outside) where
  chains : Kind → List (Link W) := fun _ => []
  suppliers : List W.Supplier := []

namespace Registry
variable {W : Outside}

def add (r : Registry W) (kind : Kind) (link : Link W) : Registry W :=
  { r with chains := fun k => if k = kind then r.chains k ++ [link] else r.chains k }

def addSupplier (r : Registry W) (s : W.Supplier) : Registry W :=
  { r with suppliers := r.suppliers ++ [s] }

def record (r : Registry W) : Addition W → Registry W
  | .customizer kind link => r.add kind link
  | .supplier s => r.addSupplier s

def extend (r : Registry W) (added : List (Addition W)) : Registry W := added.foldl record r

/-- The links of one kind in registration order, as they are now. -/
def resolve (r : Registry W) (kind : Kind) : List (Link W) := r.chains kind

def count (r : Registry W) (kind : Kind) : Nat := (r.chains kind).length

def offer (r : Registry W) (kind : Datum) (customizer : Offer W.Customizer) :
    Except Fault (Registry W) := do
  return r.record (← Addition.ofCustomizer kind customizer)

def offerTyped (r : Registry W) (kind : Kind) (customizer : Offer W.Customizer) :
    Except Fault (Registry W) :=
  r.offer (.text kind.name) customizer

def offerSupplier (r : Registry W) (supplier : Offer W.Supplier) : Except Fault (Registry W) := do
  return r.record (← Addition.ofSupplier supplier)

end Registry

end Telemetry
