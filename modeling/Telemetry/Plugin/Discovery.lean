import Telemetry.Host

/-! # Merging plugins

Plugins of two groups take part in customization. Those that configure tracer settings in place
become customizers of the tracer provider; the others register what they like. The former come
first. -/

namespace Telemetry.Discovery

open Assembly

variable {W : Outside} (host : Host W) (loader : W.Loader)

def discover (group : String) : Assembly W (List W.Plugin) := ask host (.load loader group) ()

/-- Adds a plugin's configuration of tracer settings to the chain. -/
def mergeConfigurer (plugin : W.Plugin) : Assembly W Unit := do
  modify fun s => { s with registry := s.registry.add .tracerProvider (.configurer plugin) }
  emit (.configurerMerged (host.typeName plugin))

def mergeProvider (plugin : W.Plugin) : Assembly W Unit := do
  ask host (.contribute plugin) (← get).registry
  emit (.providerApplied (host.typeName plugin))

def merge : Assembly W Unit := do
  (← discover host loader Names.tracerProviderConfigurers).forM (mergeConfigurer host)
  (← discover host loader Names.customizerProviders).forM (mergeProvider host)

end Telemetry.Discovery
