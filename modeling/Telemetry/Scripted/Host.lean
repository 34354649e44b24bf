import Telemetry.Plugin.EntryPoint
import Telemetry.Scripted.Apply
import Telemetry.Scripted.Recorder

/-! # The scripted host

Scripted functions, plugins and exporters as the code that the library calls. -/

namespace Telemetry.Scripted

/-- Applies a function in a chain. What it returns need not be of the chain's kind. -/
def customize (k : Kind) (fn : Fn) (value : Artifact stage k) (p : Properties) :
    Run (Artifact stage k) := do
  return (← applyTo fn (.ofArtifact k value) p).1.asArtifact k

def Supplier.supply : Supplier → Run Source
  | gives source => pure source
  | raises f => throw f

def Entry.entryPoint (e : Entry) : EntryPoint stage where
  name := e.name
  load := do
    let plugin ← liftResult e.plugin
    if e.asClass then
      return .class do
        match e.instantiation with
        | some f => throw f
        | none => return plugin
    else return .plugin plugin

/-- Entry points are looked up anew each time, plugins of the other loader are counted. -/
def load : LoaderChoice → String → Run (List Plugin)
  | .static, group => do
    let (plugins, loader) := (← get).own.loader.load group
    modifyOwn fun own => { own with loader }
    return plugins
  | .entryPoints, group => do
    modifyOwn fun own => { own with asked := own.asked ++ [group] }
    let entries := (← get).own.entryPoints.filter (·.1 = group)
    EntryPoint.loadGroup group (entries.map fun e => e.2.entryPoint)

namespace Plugin

def typeName : Plugin → String
  | provider .. => "Customizer"
  | configurer _ => "Configurer"
  | exporter .. => "ExporterPlugin"
  | propagator .. => "PropagatorPlugin"
  | plain value => value.typeName

def componentName : Plugin → Except Fault String
  | exporter name .. | propagator name .. => .ok name
  | p => .error (.noMember p.typeName "name")

/-- Registers the customizers, then the suppliers, and then fails if that is what it does. -/
def contribute : Plugin → Run Unit
  | provider customizers suppliers fault => do
    customizers.forM fun (kind, fn) => addCustomizer kind fn
    suppliers.forM addSupplier
    match fault with
    | some f => throw f
    | none => return ()
  | p => throw (.noMember p.typeName "customize")

/-- Runs on the settings it is handed, or on what came instead. -/
def configure (plugin : Plugin) (value : Artifact stage .tracerProvider) (p : Properties) :
    Run (Artifact stage .tracerProvider) :=
  match plugin with
  | configurer fn => do
    return (← runOn fn (.ofArtifact .tracerProvider value) p).asArtifact .tracerProvider
  | plugin => throw (.noMember plugin.typeName "configure")

def createExporter (plugin : Plugin) (p : Properties) : Run (Exporter Device) :=
  match plugin with
  | exporter _ id idKey behavior fault => do
    match fault with
    | some f => throw f
    | none =>
      let id := match idKey with
        | some key => id ++ ":" ++ (p.string? key).getD "None"
        | none => id
      return .outside (.recorder id behavior)
  | plugin => throw (.noMember plugin.typeName "create_exporter")

def createPropagator : Plugin → Run Propagator
  | propagator _ id fields fault => do
    match fault with
    | some f => throw f
    | none => return .custom id fields
  | plugin => throw (.noMember plugin.typeName "create_propagator")

end Plugin

/-- New ids follow one another in the middle of the range that samplers divide, as random ids do on
the average: a share of next to none leaves them out, and one of nearly all takes them in. -/
def middleId : Nat := Nat.pow 2 63

/-- The next id: of a generator, which starts again after its last one, or one that is new. -/
def traceId : Option Nat → StateM State Nat
  | some n => do
    let s ← get
    match s.generators[n]? with
    | some (ids, given) =>
      set { s with generators := s.generators.set n (ids, given + 1) }
      return ids.getD (given % ids.length) 0
    | none => return 0
  | none => do
    let s ← get
    set { s with spans := s.spans + 1 }
    return middleId + s.spans

def host : Host stage where
  customize := customize
  supply := Supplier.supply
  environment := return (← get).own.environment
  load := load
  typeName := Plugin.typeName
  nameOf := Plugin.componentName
  contribute plugin _ := plugin.contribute
  configure := Plugin.configure
  createExporter := Plugin.createExporter
  createPropagator plugin _ := plugin.createPropagator
  channel := channel
  metricChannel := metricChannel
  traceId := traceId

end Telemetry.Scripted
