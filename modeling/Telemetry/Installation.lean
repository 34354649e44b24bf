import Telemetry.Event

/-! # The process-wide default

A process has one slot per provider, each set once and for all by whoever comes first, a current
propagator, and at most one default bundle. A bundle becomes the default only if all three slots are
its own. -/

namespace Telemetry

/-- What a bundle brings with it, by identity. -/
structure Installable (ι : Type) where
  bundle : ι
  tracer : ι
  meter : ι
  logger : ι
  propagator : ι

inductive Slot
  | tracer
  | meter
  | logger
  deriving DecidableEq

structure Globals (ι : Type) where
  tracer : Option ι := none
  meter : Option ι := none
  logger : Option ι := none
  /-- Every propagator that was made the current one, in order. -/
  propagators : List ι := []
  default : Option ι := none

namespace Globals
variable {ι : Type}

def setSlot (g : Globals ι) (slot : Slot) (provider : ι) : Globals ι :=
  match slot with
  | .tracer => { g with tracer := g.tracer.or (some provider) }
  | .meter => { g with meter := g.meter.or (some provider) }
  | .logger => { g with logger := g.logger.or (some provider) }

/-- Sets all three slots that are free. -/
def setProviders (g : Globals ι) (b : Installable ι) : Globals ι :=
  ((g.setSlot .tracer b.tracer).setSlot .meter b.meter).setSlot .logger b.logger

variable [DecidableEq ι]

/-- The names of the slots that hold something else than the bundle's provider. -/
def rejected (g : Globals ι) (b : Installable ι) : List String :=
  (if g.tracer = some b.tracer then [] else ["tracer_provider"]) ++
    (if g.meter = some b.meter then [] else ["meter_provider"]) ++
    (if g.logger = some b.logger then [] else ["logger_provider"])

/-- Tries to make a bundle the default. Says whether it is the default afterwards. -/
def install (g : Globals ι) (b : Installable ι) (resource : OrderedMap String Datum) :
    Bool × Globals ι × List Event :=
  match g.default with
  | some d => if d = b.bundle then (true, g, []) else (false, g, [.alreadyInstalled])
  | none =>
    let g := g.setProviders b
    let slots := g.rejected b
    if slots.isEmpty then
      (true, { g with propagators := g.propagators ++ [b.propagator], default := some b.bundle },
        [.installed resource])
    else (false, g, [.installRejected slots])

end Globals

end Telemetry
