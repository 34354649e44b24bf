import Telemetry.Exporter.Selection

/-! # The tracer provider

The configured sampler, exporters and processors as settings, and the provider made from settings.
-/

namespace Telemetry

open Assembly

structure TracerProvider (ε ι τ : Type) where
  resource : Resource
  resourceReplaced : Bool
  sampler : Customized τ Sampler
  idGenerator : Option ι
  attributeLimit : AttributeLimit
  processors : List (Processor ε τ)

def defaultAttributeLimit : AttributeLimit := .atMost 128

namespace TracerSettings
variable {ε ι τ : Type}

def build (s : TracerSettings ε ι τ) : TracerProvider ε ι τ where
  resource := s.resource.getD .unnamed
  resourceReplaced := s.resourceReplaced || s.resource.isNone
  sampler := (s.sampler.getD .nothing).orElse .standard
  idGenerator := s.idGenerator
  attributeLimit := s.attributeLimit.getD defaultAttributeLimit
  processors := s.processors

end TracerSettings

section
variable {W : Outside} (host : Host W)

def customizeExporters (chain : List (Link W)) (p : Properties) :
    List (String × Exporter W.Exporter) →
      Assembly W (List (String × Customized W.Thing (Exporter W.Exporter)))
  | [] => pure []
  | (name, e) :: rest => do
    let customized ← runChain host .spanExporter chain p (.proper e)
    return (name, customized) :: (← customizeExporters chain p rest)

/-- Puts the configured sampler and processors into the settings. All exporters are created before
the first one is customized. -/
def configureTracer (loader : W.Loader) (p : Properties)
    (exporterChain samplerChain : List (Link W)) (settings : Component W .tracerProvider) :
    Assembly W (Component W .tracerProvider) := do
  let initial ← check .sampler (Sampler.ofProperties p)
  let sampler ← runChain host .sampler samplerChain p (.proper initial)
  let created ← configureExporters host loader (exporterCatalogue W .traces) p
  let customized ← customizeExporters host exporterChain p created.entries
  let exporters := OrderedMap.ofList customized
  let processors ← check (.processors .traces) (Processor.configure .traces exporters (some p))
  emit (.tracerConfigured exporters.keys)
  return processors.foldl TracerSettings.addProcessor (settings.setSampler sampler)

end

end Telemetry
