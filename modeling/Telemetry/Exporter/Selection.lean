import Telemetry.Selection

/-! # Configured exporters

The exporters that a setting names, created in the order of the names. -/

namespace Telemetry

open Assembly

/-- Where the exporters of one setting come from. -/
structure ExporterCatalogue (W : Outside) (α : Type) where
  key : String
  default : String
  group : String
  builtin? : String → Option (Properties → Except Fault α)
  ofPlugin : Exporter W.Exporter → α

section
variable {W : Outside} {α : Type} (host : Host W) (loader : W.Loader)
  (catalogue : ExporterCatalogue W α) (p : Properties)

def createExporters : List String → Option (Selection.Table W) → Assembly W (List (String × α))
  | [], _ => pure []
  | name :: rest, known => do
    match catalogue.builtin? name with
    | some make =>
      let e ← check (.builtin catalogue.key name) (make p)
      emit (.exporterConfigured catalogue.key name)
      return (name, e) :: (← createExporters rest known)
    | none =>
      let table ← Selection.loaded host loader catalogue.group known
      let plugin ← check (.lookup catalogue.key name) (Selection.plugin table catalogue.key name)
      let e ← ask host (.createExporter plugin p) ()
      emit (.exporterConfigured catalogue.key name)
      return (name, catalogue.ofPlugin e) :: (← createExporters rest (some table))

def configureExporters : Assembly W (OrderedMap String α) := do
  let names ← check (.names catalogue.key)
    (Selection.names p catalogue.key "exporters" [catalogue.default])
  return .ofList (← createExporters host loader catalogue p names none)

end

def builtinExporter? {ε : Type} (signal : Signal) (name : String) :
    Option (Properties → Except Fault (Exporter ε)) :=
  if name = Names.otlp then some fun p => (Otlp.options p signal.name).map (.otlp signal)
  else if name = Names.logging then some fun _ => .ok (.console signal)
  else none

def exporterCatalogue (W : Outside) : Signal → ExporterCatalogue W (Exporter W.Exporter)
  | .traces => ⟨Names.tracesExporter, Names.defaultTracesExporter, Names.spanExporters,
      builtinExporter? .traces, id⟩
  | .metrics => ⟨Names.metricsExporter, Names.defaultMetricsExporter, Names.metricExporters,
      builtinExporter? .metrics, id⟩
  | .logs => ⟨Names.logsExporter, Names.defaultLogsExporter, Names.logExporters,
      builtinExporter? .logs, id⟩

end Telemetry
