import Telemetry.Properties.Getters
import Telemetry.Signal

/-! # OTLP exporter options

Each option has a generic setting and one of the signal's own. The own endpoint and timeout replace
the generic ones; headers are merged name by name. -/

namespace Telemetry.Otlp

structure Options where
  endpoint : Option String
  headers : OrderedMap String String
  timeoutSeconds : Option Binary64

def Options.toDatum (o : Options) : Datum :=
  .map
    ((match o.endpoint with
      | some e => [("endpoint", Datum.text e)]
      | none => []) ++
    (if o.headers.isEmpty then []
      else [("headers", .map (o.headers.entries.map fun e => (e.1, .text e.2)))]) ++
    match o.timeoutSeconds with
    | some t => [("timeout", .float t)]
    | none => [])

def genericKey (option : String) : String := "otel.exporter.otlp." ++ option

def signalKey (signal option : String) : String := s!"otel.exporter.otlp.{signal}.{option}"

def withoutSlashes (s : String) : String :=
  String.ofList ((s.toList.reverse.dropWhile (· == '/')).reverse)

/-- The signal's endpoint, or its path below the generic one. -/
def endpoint? (p : Properties) (signal : String) : Option String :=
  match p.string? (signalKey signal "endpoint") with
  | some own => some own
  | none => (p.string? (genericKey "endpoint")).map fun base =>
      withoutSlashes base ++ "/v1/" ++ signal

/-- Milliseconds in seconds, unless the number is too large. -/
def seconds (millis : Int) : Except Fault Binary64 :=
  let x := Binary64.ofRatio (millis < 0) millis.natAbs 1000
  if x.isInfinite then .error (.overflow .quotient) else .ok x

/-- The generic timeout is read even when the signal has its own. -/
def options (p : Properties) (signal : String) : Except Fault Options := do
  let generic ← p.map (genericKey "headers")
  let own ← p.map (signalKey signal "headers")
  let fallback ← p.durationMillis? (genericKey "timeout")
  let millis ← p.durationMillis? (signalKey signal "timeout")
  let timeout ← ((millis.or fallback).mapM seconds : Except Fault (Option Binary64))
  return ⟨endpoint? p signal, generic.union own, timeout⟩

end Telemetry.Otlp
