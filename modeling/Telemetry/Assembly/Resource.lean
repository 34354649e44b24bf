import Telemetry.Host

/-! # The configured resource

The attributes from the settings over the base attributes, with a service name in any case, and then
whatever the customizers make of it. -/

namespace Telemetry

open Assembly

/-- The attributes that the settings give. The service name has a setting of its own, which wins. -/
def configuredAttributes (p : Properties) : Except Fault (OrderedMap String Datum) := do
  let listed ← p.map Names.resourceAttributes
  let attributes := OrderedMap.ofList (listed.entries.map fun e => (e.1, Datum.text e.2))
  match p.string? Names.serviceName with
  | some name => return attributes.insert Names.serviceNameAttribute (.text name)
  | none => return attributes

def configuredResource (p : Properties) : Except Fault Resource := do
  return Resource.unnamed.merge (.ofAttributes (← configuredAttributes p).entries)

def configureResource {W : Outside} (host : Host W) (chain : List (Link W)) (p : Properties) :
    Assembly W Resource := do
  let initial ← check .attributes (configuredResource p)
  let customized ← runChain host .resource chain p (.proper initial)
  let resource ← check .resource (customized.use "attributes")
  emit (.resourceConfigured resource.attributes)
  return resource

end Telemetry
