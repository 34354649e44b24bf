import Telemetry.Host
import Telemetry.Plugin.StaticLoader
import Telemetry.Scripted.Raise

/-! # Scripts for outside code

Customizers, suppliers, exporters and plugins that are described by data, so that an assembly can be
exercised without writing code. They work on a state that remembers what they did. -/

namespace Telemetry.Scripted

/-- What an exporter answers to a batch. -/
inductive Answer
  | gives (outcome : Outcome)
  | raises (fault : Fault)

structure Behavior where
  answer : Answer := .gives .success
  flush : Except Fault Datum := .ok (.bool true)
  canFlush : Bool := true
  shutdown : Option Fault := none

mutual

/-- Exporters that record what they are called with, and wrappers that record and forward, even if
what they forward to is no exporter. -/
inductive Device
  | recorder (id : String) (behavior : Behavior)
  | wrapper (id : String) (inner : Subject)

/-- What a function may be applied to, and what it may return. -/
inductive Subject
  | datum (value : Datum)
  | resource (value : Resource)
  | sampler (value : Sampler)
  | exporter (value : Exporter Device)
  | propagator (value : Propagator)
  | settings (value : TracerSettings Device Nat Subject)

end

abbrev Settings := TracerSettings Device Nat Subject

/-- The name of a subject's type, as messages give it. -/
def Subject.typeName : Subject → String
  | datum value => value.typeName
  | resource _ => "Resource"
  | sampler value => value.typeName
  | exporter (.console _) => "ConsoleSpanExporter"
  | exporter _ => "SpanExporter"
  | propagator .traceContext => "TraceContextTextMapPropagator"
  | propagator .baggage => "W3CBaggagePropagator"
  | propagator (.custom ..) => "TextMapPropagator"
  | settings _ => "TracerProviderBuilder"

/-- Functions from a value and the settings to a value. The last one is no function at all. -/
inductive Fn
  | append (item : Datum)
  | add (n : Datum)
  | mul (n : Datum)
  | const (value : Datum)
  | get (key : String)
  | raise (fault : Fault)
  | register (kind : Datum) (fn : Fn)
  | seq (fns : List Fn)
  | when (key : String) (equals : Datum) (fn : Fn)
  | tag (text : Datum)
  | describe (text : Datum)
  | merge (attributes : List (String × Datum))
  | extendAttribute (name text : String)
  | settingAttribute (name key : String)
  | resource (attributes : List (String × Datum))
  | sampler (name : String)
  | wrap (id : String)
  | memory (id : String) (behavior : Behavior)
  | propagator (id : String) (fields : List String)
  | setSampler (name : String)
  | setResource (attributes : List (String × Datum))
  | addMemory (id : String) (behavior : Behavior)
  | fresh
  | idGenerator (ids : List Nat)
  | spanLimits (maxAttributes : Datum)
  | notAFunction (value : Datum)

def Fn.offer : Fn → Offer Fn
  | .notAFunction value => .value value
  | f => .function f

inductive Supplier
  | gives (source : Source)
  | raises (fault : Fault)

inductive Plugin
  | provider (customizers : List (Datum × Fn)) (suppliers : List (Offer Supplier))
      (fault : Option Fault)
  | configurer (fn : Fn)
  | exporter (name id : String) (idKey : Option String) (behavior : Behavior)
      (fault : Option Fault)
  | propagator (name id : String) (fields : List String) (fault : Option Fault)
  | plain (value : Datum)

/-- An entry point: a plugin or the class of one, or a failure to load or to instantiate it. -/
structure Entry where
  name : String
  plugin : Except Fault Plugin
  asClass : Bool
  instantiation : Option Fault

inductive LoaderChoice
  | static
  | entryPoints

/-- What functions leave in the list of calls. -/
inductive Call
  | tagged (text : Datum)
  | described (text : Datum) (subject : Subject)

/-- What an exporter was called with. -/
inductive Use
  | item (i : Item)
  | flush (timeout : Datum)
  | shutdown

structure State where
  calls : List Call := []
  uses : OrderedMap String (List Use) := .empty
  readings : OrderedMap String (List Point) := .empty
  loader : StaticLoader Plugin := {}
  environment : Source := .empty
  entryPoints : List (String × Entry) := []
  /-- The groups that entry points were asked for. -/
  asked : List String := []
  /-- Id generators: the ids they repeat, and how many they have given. -/
  generators : List (List Nat × Nat) := []
  /-- How many ids were given without a generator. -/
  spans : Nat := 0
  /-- What the function that runs was handed. -/
  handed : Subject := .settings {}

/-- The calls so far, of which none are left. -/
def State.takeCalls (s : State) : List Call × State := (s.calls, { s with calls := [] })

/-- What the exporters were called with, by id in alphabetical order, of which nothing is left. -/
def State.takeUses (s : State) : List (String × List Use) × State :=
  (s.uses.entries.mergeSort fun a b => a.1 ≤ b.1, { s with uses := .empty })

/-- The scripted outside. -/
abbrev stage : Outside where
  Customizer := Fn
  Supplier := Supplier
  Plugin := Plugin
  Loader := LoaderChoice
  Exporter := Device
  IdGenerator := Nat
  Thing := Subject
  State := State

end Telemetry.Scripted
