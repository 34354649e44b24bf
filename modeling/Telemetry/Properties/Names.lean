/-! # Names of settings

Property keys in their normal form, the values that hold when a property is absent, the reserved
component names, and the plugin groups. -/

namespace Telemetry.Names

def serviceName := "otel.service.name"
def resourceAttributes := "otel.resource.attributes"
def tracesExporter := "otel.traces.exporter"
def metricsExporter := "otel.metrics.exporter"
def logsExporter := "otel.logs.exporter"
def tracesSampler := "otel.traces.sampler"
def tracesSamplerArg := "otel.traces.sampler.arg"
def propagators := "otel.propagators"
def metricExportInterval := "otel.metric.export.interval"

def spanScheduleDelay := "otel.bsp.schedule.delay"
def spanMaxQueueSize := "otel.bsp.max.queue.size"
def spanMaxExportBatchSize := "otel.bsp.max.export.batch.size"
def spanExportTimeout := "otel.bsp.export.timeout"
def recordScheduleDelay := "otel.blrp.schedule.delay"
def recordMaxQueueSize := "otel.blrp.max.queue.size"
def recordMaxExportBatchSize := "otel.blrp.max.export.batch.size"
def recordExportTimeout := "otel.blrp.export.timeout"

def defaultTracesExporter := "otlp"
def defaultMetricsExporter := "otlp"
def defaultLogsExporter := "none"
def defaultSampler := "parentbased_always_on"
def defaultServiceName := "unknown_service"
def defaultPropagators := ["tracecontext", "baggage"]
def defaultMetricExportIntervalMillis : Int := 60000

def logging := "logging"
def otlp := "otlp"
def none := "none"

def customizerProviders := "budautoconf.customizer_providers"
def tracerProviderConfigurers := "budautoconf.tracer_provider_configurers"
def spanExporters := "budautoconf.span_exporters"
def metricExporters := "budautoconf.metric_exporters"
def logExporters := "budautoconf.log_exporters"
def propagatorPlugins := "budautoconf.propagators"

/-- The scope under which the pipelines count their own work. -/
def scope := "budautoconf"

def version := "0.1.0"

/-- The attribute of a resource that names the service. -/
def serviceNameAttribute := "service.name"

end Telemetry.Names
