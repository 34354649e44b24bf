import Telemetry.Fault

/-! # Kinds of customizers

What can be customized during assembly. -/

namespace Telemetry

inductive Kind
  | tracerProvider
  | propagator
  | spanExporter
  | resource
  | sampler
  deriving DecidableEq

namespace Kind

def all : List Kind := [tracerProvider, propagator, spanExporter, resource, sampler]

def name : Kind → String
  | tracerProvider => "tracer_provider"
  | propagator => "propagator"
  | spanExporter => "span_exporter"
  | resource => "resource"
  | sampler => "sampler"

def ofName? (name : String) : Option Kind := all.find? (·.name == name)

/-- A kind is given by its name; nothing else is one. -/
def ofDatum (d : Datum) : Except Fault Kind :=
  match d with
  | .text s =>
    match ofName? s with
    | some k => .ok k
    | none => .error (.notAKind d.shown)
  | _ => .error (.notAKind d.shown)

theorem mem_all (k : Kind) : k ∈ all := by cases k <;> decide

end Kind

end Telemetry
