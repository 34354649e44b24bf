import Telemetry.Assembly.Bundle
import Telemetry.Estate
import Telemetry.Plugin.Discovery

/-! # Builders

A builder holds what an assembly starts from: registered customizers and suppliers, the plugin
loader, and the settings given to it. Plugins are merged into it once, by the first assembly,
whether or not that succeeds. An assembly makes the providers in the order in which they depend on
each other; only when all are made does it touch anything process-wide. -/

namespace Telemetry

open Assembly

structure Builder (W : Outside) where
  loader : W.Loader
  registry : Registry W := {}
  properties : Option Properties := none
  processProperties : Source := .empty
  registersHook : Bool := false
  installsGlobally : Bool := false
  pluginsMerged : Bool := false

namespace Builder
variable {W : Outside}

/-- The builder of a program that leaves everything to plugins and the environment: its bundle
becomes the default and is shut down at exit. -/
def standard (loader : W.Loader) : Builder W :=
  { loader, registersHook := true, installsGlobally := true }

/-- Uses a snapshot as it is; suppliers and other sources are then ignored. -/
def setProperties (b : Builder W) (p : Option Properties) : Except Fault (Builder W) :=
  match p with
  | some p => .ok { b with properties := some p }
  | none => .error (.notGiven "config")

def setLoader (b : Builder W) (loader : Option W.Loader) : Except Fault (Builder W) :=
  match loader with
  | some loader => .ok { b with loader }
  | none => .error (.notGiven "loader")

variable (host : Host W)

/-- Calls the suppliers registered by now, in order, and layers what they supply. -/
def supplied : Assembly W Source := do
  let sources ← (← get).registry.suppliers.mapM fun s => ask host (.supply s) ()
  return .layer sources

def snapshot (b : Builder W) : Assembly W Properties := do
  match b.properties with
  | some p => return p
  | none =>
    let supplied ← supplied host
    let environment ← ask host .environment ()
    return .create supplied environment b.processProperties

/-- Makes everything from a snapshot. The chains of samplers and span exporters are resolved
together, before either is applied. -/
def assembleFrom (loader : W.Loader) (p : Properties) : Assembly W (Bundle W) := do
  let resource ← configureResource host (← resolve .resource) p
  let meter ← configureMeter host loader resource p
  let exporterChain ← resolve .spanExporter
  let samplerChain ← resolve .sampler
  let initial ← configureTracer host loader p exporterChain samplerChain (.ofResource resource)
  let customized ← runChain host .tracerProvider (← resolve .tracerProvider) p (.proper initial)
  let settings ← check .settings (customized.use "build")
  let tracer := TracerSettings.build settings
  let logger ← configureLogger host loader resource p
  let propagators ← configurePropagators host loader (← resolve .propagator) p
  return { properties := p, resource, meter, tracer, logger, propagators }

def assemble (b : Builder W) : Assembly W (Bundle W) := do
  unless b.pluginsMerged do Discovery.merge host b.loader
  let p ← b.snapshot host
  assembleFrom host b.loader p

/-- What is done process-wide for an assembled bundle. -/
def announce (b : Builder W) (resource : Resource) (s : Estate) : Nat × Estate :=
  let (n, s) := s.enroll
  let s := if b.registersHook then s.registerShutdown n else s
  let s := if b.installsGlobally then (s.install n resource.attributes).2 else s
  (n, s.log [.assembled ((resource.get? Names.serviceNameAttribute).getD .null)])

structure Built (W : Outside) where
  outcome : Except Fault (Nat × Bundle W)
  builder : Builder W
  own : W.State
  estate : Estate
  /-- The steps of the assembly. -/
  turns : List (Turn W)

/-- Assembles a bundle. Whatever was registered meanwhile stays registered, also after a fault. -/
def build (b : Builder W) (own : W.State) (estate : Estate) : Built W :=
  let (result, scene) := (b.assemble host).run { own, registry := b.registry }
  let builder := { b with registry := scene.registry, pluginsMerged := true }
  let estate := estate.log scene.journal
  match result with
  | .error f => ⟨.error f, builder, scene.own, estate, scene.turns⟩
  | .ok bundle =>
    let (n, estate) := b.announce bundle.resource estate
    ⟨.ok (n, bundle), builder, scene.own, estate, scene.turns⟩

end Builder

end Telemetry
