import Telemetry.Assembly.Bundle
import Telemetry.Processor.Running
import Telemetry.Provider.FlushTime

/-! # Bundles at work

Recording spans and log records on a bundle, flushing it, and shutting down its providers one by
one. -/

namespace Telemetry

/-- Drops the oldest attributes beyond a limit. -/
def AttributeLimit.keep (limit : AttributeLimit) (attributes : OrderedMap String Datum) :
    OrderedMap String Datum :=
  match limit with
  | .unlimited => attributes
  | .atMost n => .ofList (attributes.entries.drop (attributes.size - n))

namespace TracerProvider
variable {W : Outside} (host : Host W)

/-- The item of a root span that a sampler was asked about, if it is recorded. -/
def item? (t : TracerProvider W.Exporter W.IdGenerator W.Thing) (traceId : Nat) (name : String)
    (attributes : List (String × Datum)) : Except Fault (Option Item) := do
  let sampler ← t.sampler.use "should_sample"
  if sampler.samplesRoot traceId then
    return some (.span name (t.attributeLimit.keep (Attribute.clean attributes)))
  else return none

/-- Starts and ends a root span, which gets a trace id in any case. -/
def recordSpan (t : TracerProvider W.Exporter W.IdGenerator W.Thing) (name : String)
    (attributes : List (String × Datum)) :
    Live W (TracerProvider W.Exporter W.IdGenerator W.Thing × Except Fault Unit) := do
  let s ← get
  let (traceId, own) := (host.traceId t.idGenerator).run s.own
  set { s with own }
  match t.item? traceId name attributes with
  | .error f => return (t, .error f)
  | .ok none => return (t, .ok ())
  | .ok (some item) =>
    let (processors, result) ← Processor.receiveAll host item t.processors
    return ({ t with processors }, result)

end TracerProvider

namespace MeterProvider
variable {W : Outside} (host : Host W)

/-- Hands the current points to each reader's exporter, if there are any. What becomes of them is
the exporter's business, unless it asks to leave the program. -/
def collect : List (MetricReader W.Exporter) → Live W (Except Fault Unit)
  | [] => return .ok ()
  | reader :: rest => do
    let points := (← get).counters.points
    if points.isEmpty then collect rest
    else
      match swallow (← (Act.live ((host.metricChannel reader.exporter).send points)).run) with
      | .error f => return .error f
      | .ok () => collect rest

def flushReaders (time : FlushTime) (readers : List (MetricReader W.Exporter)) :
    Live W (Except Fault Unit) := do
  match time.readerFault? with
  | some f =>
    if readers.isEmpty then return .ok ()
    else return .error (.readersNotFlushed (readers.map fun _ => f.shown))
  | none => collect host readers

/-- Closes the readers' exporters, all of them, and reports the failures together. A request to
leave the program goes on at once. -/
def closeReaders (failed : List String) :
    List (MetricReader W.Exporter) → Live W (Except Fault Unit)
  | [] => return if failed.isEmpty then .ok () else .error (.readersNotClosed failed)
  | reader :: rest => do
    match ← (Act.live (host.metricChannel reader.exporter).close).run with
    | .ok () => closeReaders failed rest
    | .error f =>
      if f.exits then return .error f
      else closeReaders (failed ++ [f.shown]) rest

end MeterProvider

namespace Bundle
variable {W : Outside} (host : Host W)

/-- Something done by a bundle's pipelines. -/
abbrev Deed (W : Outside) (α : Type) := ExceptT Fault (StateM (W.State × Bundle W)) α

def withPipeline {α : Type} (run : Bundle W → Live W (Bundle W × Except Fault α)) : Deed W α :=
  ExceptT.mk fun (own, b) =>
    let ((b', result), s) := (run b).run ⟨own, b.meter.counters⟩
    (result, s.own, { b' with meter := { b'.meter with counters := s.counters } })

def recordSpan (name : String) (attributes : List (String × Datum)) : Deed W Unit :=
  withPipeline fun b => do
    let (tracer, result) ← b.tracer.recordSpan host name attributes
    return ({ b with tracer }, result)

def recordLog (body : Datum) : Deed W Unit :=
  withPipeline fun b => do
    let (processors, result) ← Processor.receiveAll host (.record body) b.logger.processors
    return ({ b with logger := { b.logger with processors } }, result)

def flushProcessors (time : FlushTime) (ps : List (Processor W.Exporter W.Thing)) :
    Live W (List (Processor W.Exporter W.Thing) × Except Fault Bool) :=
  if time = .spent && !ps.isEmpty then pure (ps, .ok false) else Processor.flushAll host ps

def flushTracer (time : FlushTime) : Deed W Datum :=
  withPipeline fun b => do
    let (processors, result) ← flushProcessors host time b.tracer.processors
    return ({ b with tracer := { b.tracer with processors } }, result.map .bool)

def flushMeter (time : FlushTime) : Deed W Datum :=
  withPipeline fun b => do
    let result ← MeterProvider.flushReaders host time b.meter.readers
    return (b, result.map fun _ => .bool true)

def flushLogger (time : FlushTime) : Deed W Datum :=
  withPipeline fun b => do
    let (processors, result) ← flushProcessors host time b.logger.processors
    return ({ b with logger := { b.logger with processors } }, result.map .bool)

/-- Flushes the providers in shutdown order, each with all of the time. -/
def flush (millis : Datum) : Deed W Datum := do
  let time ← ExceptT.mk (pure (FlushTime.ofMillis millis))
  flushAll [flushTracer host time, flushMeter host time, flushLogger host time]

def shutdownProvider (provider : String) : Deed W Unit :=
  withPipeline fun b => do
    match provider with
    | "tracer_provider" =>
      let (processors, result) ← Processor.closeAll host b.tracer.processors
      return ({ b with tracer := { b.tracer with processors } }, result)
    | "meter_provider" => return (b, ← MeterProvider.closeReaders host [] b.meter.readers)
    | "logger_provider" =>
      let (processors, result) ← Processor.closeAll host b.logger.processors
      return ({ b with logger := { b.logger with processors } }, result)
    | _ => return (b, .ok ())

end Bundle

end Telemetry
