import Telemetry.Outside

/-! # Transcripts

Whatever can fail in an assembly is a step of it: asking outside code for something, or a check of
the library's own. A transcript lists the steps that were taken, each with what came of it. -/

namespace Telemetry

/-- What outside code is asked for. -/
inductive Request (W : Outside)
  | load (loader : W.Loader) (group : String)
  | contribute (plugin : W.Plugin)
  | supply (supplier : W.Supplier)
  | environment
  | apply (k : Kind) (link : Link W) (p : Properties)
  | createExporter (plugin : W.Plugin) (p : Properties)
  | createPropagator (plugin : W.Plugin) (p : Properties)

namespace Request
variable {W : Outside}

/-- What is handed in besides: a plugin gets the registry as it is then, and a link the value that it
is applied to. -/
abbrev Input : Request W → Type
  | contribute _ => Registry W
  | apply k _ _ => Artifact W k
  | _ => Unit

abbrev Answer : Request W → Type
  | load .. => List W.Plugin
  | contribute _ => Unit
  | supply _ => Source
  | environment => Source
  | apply k _ _ => Artifact W k
  | createExporter .. => Exporter W.Exporter
  | createPropagator .. => Propagator

end Request

/-- What the library does by itself and may fail at. -/
inductive Check (W : Outside)
  /-- Reading the attributes of the resource from the settings. -/
  | attributes
  /-- Taking what the chain made of the resource for one. -/
  | resource
  | interval
  /-- Reading the names that a setting lists. -/
  | names (key : String)
  /-- Asking a plugin for its name. -/
  | nameOf (plugin : W.Plugin)
  /-- Finding the plugin of a name. -/
  | lookup (key name : String)
  /-- Making a component that is built in. -/
  | builtin (key name : String)
  | readers
  | sampler
  | processors (signal : Signal)
  /-- Taking what the chain made of the tracer settings for such. -/
  | settings

inductive Step (W : Outside)
  | ask (r : Request W)
  | check (c : Check W)

/-- A step that was taken. Outside code may have registered something meanwhile. -/
inductive Turn (W : Outside)
  | asked (r : Request W) (input : r.Input) (answer : Except Fault r.Answer)
    (added : List (Addition W))
  | checked (c : Check W) (fault : Option Fault)

namespace Turn
variable {W : Outside}

def step : Turn W → Step W
  | asked r _ _ _ => .ask r
  | checked c _ => .check c

/-- The fault that the step raised, if it did. -/
def fault? : Turn W → Option Fault
  | asked _ _ (.error f) _ => some f
  | asked _ _ (.ok _) _ => none
  | checked _ fault => fault

/-- What was registered during the step. -/
def added : Turn W → List (Addition W)
  | asked _ _ _ added => added
  | checked _ _ => []

/-- The plugins that the step has found. -/
def found : Turn W → List W.Plugin
  | asked (.load _ _) _ (.ok plugins) _ => plugins
  | _ => []

/-- The settings that the step was answered with. -/
def source : Turn W → Source
  | asked (.supply _) _ (.ok source) _ => source
  | asked .environment _ (.ok source) _ => source
  | _ => .empty

end Turn

end Telemetry
