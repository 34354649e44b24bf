import Telemetry.Assembly.Propagators
import Telemetry.Assembly.Resource
import Telemetry.Provider.Logger
import Telemetry.Provider.Meter
import Telemetry.Provider.Tracer

/-! # Bundles

The providers, resource and propagators that one assembly produces, with the settings they were made
from. -/

namespace Telemetry

structure Bundle (W : Outside) where
  properties : Properties
  resource : Resource
  meter : MeterProvider W.Exporter
  tracer : TracerProvider W.Exporter W.IdGenerator W.Thing
  logger : LoggerProvider W.Exporter W.Thing
  propagators : List (Customized W.Thing Propagator)

/-- No part of a bundle can be replaced. -/
def assignPart (field : String) : Except Fault Unit := .error (.frozen field)

def bundleShown (resource meter tracer logger propagator : String) : String :=
  s!"ProviderBundle(resource={resource}, meter_provider={meter}, tracer_provider={tracer}, " ++
    s!"logger_provider={logger}, propagator={propagator})"

/-- Flushes in turn, also after one that did not succeed. The result holds if all do, and is the
last that did not otherwise. -/
def flushAll {m : Type → Type} [Monad m] (flushes : List (m Datum)) : m Datum :=
  flushes.foldlM (fun soFar flush => do return (← flush).conjoin soFar) (.bool true)

end Telemetry
