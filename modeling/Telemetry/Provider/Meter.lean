import Telemetry.Exporter.Selection

/-! # The meter provider

One periodic reader per metric exporter, and the two counters by which the pipelines report their
own work. It is made before the other providers, because they count through it. -/

namespace Telemetry

open Assembly

structure MetricReader (ε : Type) where
  exporter : Exporter ε
  intervalMillis : Int

/-- The counters of the batch processors for log records and for spans. -/
structure Counters where
  records : ProcessedCounter :=
    { metric := "otel.sdk.processor.log.processed"
      unit := "\x7blog_record\x7d"
      component := "batching_log_processor" }
  spans : ProcessedCounter :=
    { metric := "otel.sdk.processor.span.processed"
      unit := "\x7bspan\x7d"
      component := "batching_span_processor" }

namespace Counters

def points (c : Counters) : List Point := c.records.points ++ c.spans.points

def add (c : Counters) (signal : Signal) (amount : Nat) (succeeded : Bool) : Counters :=
  match signal with
  | .logs => { c with records := c.records.add (.whole amount) succeeded }
  | _ => { c with spans := c.spans.add (.whole amount) succeeded }

end Counters

structure MeterProvider (ε : Type) where
  resource : Resource
  readers : List (MetricReader ε)
  counters : Counters := {}

/-- A reader needs a positive interval. -/
def MetricReader.make {ε : Type} (millis : Int) (e : Exporter ε) :
    Except Fault (MetricReader ε) :=
  if millis ≤ 0 then .error (.limit (.interval millis)) else .ok ⟨e, millis⟩

def configureMeter {W : Outside} (host : Host W) (loader : W.Loader) (resource : Resource)
    (p : Properties) : Assembly W (MeterProvider W.Exporter) := do
  let asked ← check .interval (p.durationMillis? Names.metricExportInterval)
  let millis := asked.getD Names.defaultMetricExportIntervalMillis
  let exporters ← configureExporters host loader (exporterCatalogue W .metrics) p
  let readers ← check .readers (exporters.values.mapM (MetricReader.make millis))
  emit (.meterConfigured exporters.keys millis)
  return { resource, readers }

end Telemetry
