import Telemetry.Customizer.Kind
import Telemetry.Event
import Telemetry.Properties.Names
import Telemetry.Shutdown.Coordinator

/-! # Catalog

What the library publishes about itself: the names of its entities, its constants, its kinds of
customizers, and the members that a plugin of each role must have. -/

namespace Telemetry.Catalog

/-- The published entities in alphabetical order. -/
def entities : List String :=
  ["AutoConfigurationError", "AutoConfiguredSdkBuilder", "ConfigProperties", "ConfigurationError",
    "CustomizerKind", "CustomizerRegistry", "EntryPointLoader", "PluginDiscovery",
    "PluginLoadError", "PluginLoader", "ProviderBundle", "ShutdownCoordinator",
    "TracerProviderBuilder", "__version__", "builder", "configure_log_processors",
    "get_default_bundle", "initialize", "install_as_default", "register_shutdown"]

def constants : List (String × Datum) :=
  [("BLRP_EXPORT_TIMEOUT", .text Names.recordExportTimeout),
    ("BLRP_MAX_EXPORT_BATCH_SIZE", .text Names.recordMaxExportBatchSize),
    ("BLRP_MAX_QUEUE_SIZE", .text Names.recordMaxQueueSize),
    ("BLRP_SCHEDULE_DELAY", .text Names.recordScheduleDelay),
    ("BSP_EXPORT_TIMEOUT", .text Names.spanExportTimeout),
    ("BSP_MAX_EXPORT_BATCH_SIZE", .text Names.spanMaxExportBatchSize),
    ("BSP_MAX_QUEUE_SIZE", .text Names.spanMaxQueueSize),
    ("BSP_SCHEDULE_DELAY", .text Names.spanScheduleDelay),
    ("CUSTOMIZER_PROVIDERS_GROUP", .text Names.customizerProviders),
    ("DEFAULT_LOGS_EXPORTER", .text Names.defaultLogsExporter),
    ("DEFAULT_METRICS_EXPORTER", .text Names.defaultMetricsExporter),
    ("DEFAULT_METRIC_EXPORT_INTERVAL_MILLIS", .int Names.defaultMetricExportIntervalMillis),
    ("DEFAULT_PROPAGATORS", .texts Names.defaultPropagators),
    ("DEFAULT_SAMPLER", .text Names.defaultSampler),
    ("DEFAULT_SERVICE_NAME", .text Names.defaultServiceName),
    ("DEFAULT_TRACES_EXPORTER", .text Names.defaultTracesExporter),
    ("INSTRUMENTATION_SCOPE", .text Names.scope),
    ("LOGGING_EXPORTER", .text Names.logging),
    ("LOGS_EXPORTER", .text Names.logsExporter),
    ("LOG_EXPORTERS_GROUP", .text Names.logExporters),
    ("METRICS_EXPORTER", .text Names.metricsExporter),
    ("METRIC_EXPORTERS_GROUP", .text Names.metricExporters),
    ("METRIC_EXPORT_INTERVAL", .text Names.metricExportInterval),
    ("NONE_EXPORTER", .text Names.none),
    ("OTLP_EXPORTER", .text Names.otlp),
    ("PROPAGATORS", .text Names.propagators),
    ("PROPAGATORS_GROUP", .text Names.propagatorPlugins),
    ("RESOURCE_ATTRIBUTES", .text Names.resourceAttributes),
    ("SERVICE_NAME", .text Names.serviceName),
    ("SHUTDOWN_TIMEOUT_SECONDS", defaultShutdownTimeout.toDatum),
    ("SPAN_EXPORTERS_GROUP", .text Names.spanExporters),
    ("TRACER_PROVIDER_CONFIGURERS_GROUP", .text Names.tracerProviderConfigurers),
    ("TRACES_EXPORTER", .text Names.tracesExporter),
    ("TRACES_SAMPLER", .text Names.tracesSampler),
    ("TRACES_SAMPLER_ARG", .text Names.tracesSamplerArg)]

def constant? (name : String) : Option Datum :=
  (constants.find? (·.1 == name)).map Prod.snd

def kinds : List (String × String) := Kind.all.map fun k => (k.name.toUpper, k.name)

/-- The members that a role asks of a plugin. -/
def members? : String → Option (List String)
  | "CustomizerProvider" => some ["customize"]
  | "TracerProviderConfigurer" => some ["configure"]
  | "PluginLoader" => some ["load"]
  | "ExporterProvider" => some ["name", "create_exporter"]
  | "PropagatorProvider" => some ["name", "create_propagator"]
  | _ => none

def canTake (role : String) (members : List String) : Bool :=
  match members? role with
  | some required => required.all members.contains
  | none => false

end Telemetry.Catalog
