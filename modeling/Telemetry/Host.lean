import Telemetry.Event
import Telemetry.Exporter.Metered
import Telemetry.Transcript

/-! # Hosts

A `Host` says what outside code does when it is called. A call can change the state of the outside,
register further customizers and suppliers, log, and end with a value or a fault; what it did before
a fault stays done. The library promises nothing about any of it. -/

namespace Telemetry

/-- What a call works on: the outside state, what it has registered, what it has logged. -/
structure Visit (W : Outside) where
  own : W.State
  added : List (Addition W) := []
  events : List Event := []

abbrev Foreign (W : Outside) (α : Type) := ExceptT Fault (StateM (Visit W)) α

/-- What an exporter in use can do: change the outside state and fail. -/
abbrev Act (W : Outside) (α : Type) := ExceptT Fault (StateM W.State) α

structure Host (W : Outside) where
  customize : (k : Kind) → W.Customizer → Artifact W k → Properties → Foreign W (Artifact W k)
  supply : W.Supplier → Foreign W Source
  environment : Foreign W Source
  load : W.Loader → String → Foreign W (List W.Plugin)
  typeName : W.Plugin → String
  /-- The name under which a plugin's component can be selected. -/
  nameOf : W.Plugin → Except Fault String
  /-- A plugin can look at all that is registered before it registers what it likes. One that keeps the
  registry, to look at it later, keeps it in the state of the outside. -/
  contribute : W.Plugin → Registry W → Foreign W Unit
  /-- The settings as a plugin leaves them. -/
  configure : W.Plugin → Artifact W .tracerProvider → Properties →
    Foreign W (Artifact W .tracerProvider)
  createExporter : W.Plugin → Properties → Foreign W (Exporter W.Exporter)
  createPropagator : W.Plugin → Properties → Foreign W Propagator
  channel : Exporter W.Exporter → Channel (Act W) Item
  metricChannel : Exporter W.Exporter → Channel (Act W) Point
  traceId : Option W.IdGenerator → StateM W.State Nat

namespace Host
variable {W : Outside}

/-- Applies one link. A configurer's settings are used as it leaves them; there are no configurers
of other kinds. -/
def apply (host : Host W) (k : Kind) (link : Link W) (value : Artifact W k) (p : Properties) :
    Foreign W (Artifact W k) :=
  match k, link with
  | k, .customizer c => host.customize k c value p
  | .tracerProvider, .configurer plugin => host.configure plugin value p
  | _, .configurer _ => pure value

/-- What outside code does when it is asked. -/
def answer (host : Host W) : (r : Request W) → r.Input → Foreign W r.Answer
  | .load loader group, _ => host.load loader group
  | .contribute plugin, registry => host.contribute plugin registry
  | .supply supplier, _ => host.supply supplier
  | .environment, _ => host.environment
  | .apply k link p, value => host.apply k link value p
  | .createExporter plugin p, _ => host.createExporter plugin p
  | .createPropagator plugin p, _ => host.createPropagator plugin p

end Host

/-- The state of an assembly: the outside, the registry, the log, and the steps so far. -/
structure Scene (W : Outside) where
  own : W.State
  registry : Registry W := {}
  journal : List Event := []
  turns : List (Turn W) := []

abbrev Assembly (W : Outside) (α : Type) := ExceptT Fault (StateM (Scene W)) α

namespace Assembly
variable {W : Outside} {α : Type}

def run (act : Assembly W α) (s : Scene W) : Except Fault α × Scene W :=
  StateT.run (ExceptT.run act) s

/-- Calls outside code. Whatever it registered and logged is appended, also when it fails. -/
def visit (call : Foreign W α) : Assembly W α := ExceptT.mk fun s =>
  let (result, v) := call.run { own := s.own }
  (result, { s with
    own := v.own, registry := s.registry.extend v.added, journal := s.journal ++ v.events })

/-- Asks outside code for something, which is a step of the assembly. -/
def ask (host : Host W) (r : Request W) (input : r.Input) : Assembly W r.Answer :=
  ExceptT.mk fun s =>
    let (answer, v) := (host.answer r input).run { own := s.own }
    (answer,
      { own := v.own, registry := s.registry.extend v.added, journal := s.journal ++ v.events
        turns := s.turns ++ [.asked r input answer v.added] })

def emit (e : Event) : Assembly W Unit := modify fun s => { s with journal := s.journal ++ [e] }

/-- A step of the library's own. -/
def check (c : Check W) (r : Except Fault α) : Assembly W α := ExceptT.mk fun s =>
  let fault := match r with
    | .ok _ => none
    | .error f => some f
  (r, { s with turns := s.turns ++ [.checked c fault] })

/-- The links of a kind that are registered at this moment. -/
def resolve (k : Kind) : Assembly W (List (Link W)) := do return (← get).registry.resolve k

/-- Threads a value through links, each receiving what the one before it returned. -/
def thread (step : Link W → α → Assembly W α) (links : List (Link W)) (value : α) :
    Assembly W α :=
  links.foldlM (fun v link => step link v) value

def runChain (host : Host W) (k : Kind) (links : List (Link W)) (p : Properties)
    (value : Artifact W k) : Assembly W (Artifact W k) :=
  thread (fun link v => ask host (.apply k link p) v) links value

end Assembly

end Telemetry
