import Telemetry.Fault

/-! # Log events

What the library reports about its own work, by what happened. -/

namespace Telemetry

inductive Level
  | debug
  | info
  | warning
  deriving DecidableEq

def Level.name : Level → String
  | debug => "debug"
  | info => "info"
  | warning => "warning"

inductive Event
  | pluginLoaded (group name : String)
  | configurerMerged (plugin : String)
  | providerApplied (plugin : String)
  | resourceConfigured (attributes : OrderedMap String Datum)
  | exporterConfigured (key exporter : String)
  | meterConfigured (exporters : List String) (intervalMillis : Int)
  | tracerConfigured (exporters : List String)
  | loggerConfigured (exporters : List String)
  | propagatorsConfigured (names : List String)
  | assembled (serviceName : Datum)
  | hookRegistered (timeout : Datum)
  | shutdownFailed (provider : String) (error : String)
  | shutdownTimedOut (pending : List String) (timeout : Datum)
  | shutdownComplete (providers failed : List String)
  | alreadyInstalled
  | installRejected (slots : List String)
  | installed (resource : OrderedMap String Datum)

namespace Event

def level : Event → Level
  | assembled _ => .info
  | shutdownFailed .. | shutdownTimedOut .. | alreadyInstalled | installRejected _ => .warning
  | _ => .debug

def name : Event → String
  | pluginLoaded .. => "plugin_loaded"
  | configurerMerged _ => "tracer_provider_configurer_merged"
  | providerApplied _ => "customizer_provider_applied"
  | resourceConfigured _ => "resource_configured"
  | exporterConfigured .. => "exporter_configured"
  | meterConfigured .. => "meter_provider_configured"
  | tracerConfigured _ => "tracer_provider_configured"
  | loggerConfigured _ => "logger_provider_configured"
  | propagatorsConfigured _ => "propagators_configured"
  | assembled _ => "sdk_autoconfigured"
  | hookRegistered _ => "shutdown_hook_registered"
  | shutdownFailed .. => "provider_shutdown_failed"
  | shutdownTimedOut .. => "shutdown_timed_out"
  | shutdownComplete .. => "shutdown_complete"
  | alreadyInstalled => "default_bundle_already_installed"
  | installRejected _ => "default_bundle_rejected"
  | installed _ => "default_bundle_installed"

def fields : Event → List (String × Datum)
  | pluginLoaded group name => [("group", .text group), ("name", .text name)]
  | configurerMerged plugin | providerApplied plugin => [("plugin", .text plugin)]
  | resourceConfigured attributes => [("attributes", .ofMap attributes)]
  | exporterConfigured key exporter => [("key", .text key), ("exporter", .text exporter)]
  | meterConfigured exporters millis =>
    [("exporters", .texts exporters), ("export_interval_millis", .int millis)]
  | tracerConfigured exporters | loggerConfigured exporters => [("exporters", .texts exporters)]
  | propagatorsConfigured names => [("propagators", .texts names)]
  | assembled serviceName => [("service_name", serviceName)]
  | hookRegistered timeout => [("timeout", timeout)]
  | shutdownFailed provider error => [("provider", .text provider), ("error", .text error)]
  | shutdownTimedOut pending timeout => [("pending", .texts pending), ("timeout", timeout)]
  | shutdownComplete providers failed =>
    [("providers", .texts providers), ("failed", .texts failed)]
  | alreadyInstalled => []
  | installRejected slots => [("rejected", .texts slots)]
  | installed resource => [("resource", .ofMap resource)]

end Event

end Telemetry
