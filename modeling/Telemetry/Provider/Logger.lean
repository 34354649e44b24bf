import Telemetry.Exporter.Selection

/-! # The logger provider

The processors for the configured log exporters. -/

namespace Telemetry

open Assembly

structure LoggerProvider (ε τ : Type) where
  resource : Resource
  processors : List (Processor ε τ)

def configureLogger {W : Outside} (host : Host W) (loader : W.Loader) (resource : Resource)
    (p : Properties) : Assembly W (LoggerProvider W.Exporter W.Thing) := do
  let created ← configureExporters host loader (exporterCatalogue W .logs) p
  let exporters := OrderedMap.ofList (created.entries.map fun e => (e.1, .proper e.2))
  let processors ← check (.processors .logs) (Processor.configure .logs exporters (some p))
  emit (.loggerConfigured exporters.keys)
  return ⟨resource, processors⟩

end Telemetry
