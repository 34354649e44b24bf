import Telemetry.Customizer.Customized

/-! # Propagators

Components that carry context across process boundaries in named header fields. -/

namespace Telemetry

inductive Propagator
  | traceContext
  | baggage
  | custom (id : String) (fields : List String)
  deriving DecidableEq

namespace Propagator

def fields : Propagator → List String
  | traceContext => ["traceparent", "tracestate"]
  | baggage => ["baggage"]
  | custom _ fields => fields

def builtin? : String → Option Propagator
  | "tracecontext" => some traceContext
  | "baggage" => some baggage
  | _ => none

/-- The fields of several propagators, each once, in alphabetical order. -/
def allFields (ps : List Propagator) : List String :=
  ((ps.flatMap fields).mergeSort fun a b => a ≤ b).eraseDups

def customizedFields {τ : Type} (ps : List (Customized τ Propagator)) :
    Except Fault (List String) := do
  return allFields (← ps.mapM (·.use "fields"))

end Propagator

end Telemetry
