import Telemetry.Exporter.Otlp

/-! # Exporters

What leaves a pipeline, the exporters it leaves through, and the channel by which an exporter is
used: sending, flushing and closing. -/

namespace Telemetry

/-- An ended span or an emitted log record. -/
inductive Item
  | span (name : String) (attributes : OrderedMap String Datum)
  | record (body : Datum)

/-- The exporters that come with the library, and those that come from outside. -/
inductive Exporter (ε : Type)
  | otlp (signal : Signal) (options : Otlp.Options)
  | console (signal : Signal)
  | outside (exporter : ε)

/-- What sending a batch came to. Anything but the signal's own success counts as a failure. -/
inductive Outcome
  | success
  | failure
  | other (value : Datum)

def Outcome.succeeded : Outcome → Bool
  | success => true
  | _ => false

/-- How an exporter is used. Not every log exporter can be flushed. -/
structure Channel (m : Type → Type) (α : Type) where
  send : List α → m Outcome
  flush : Option (Datum → m Datum)
  close : m Unit

namespace Channel
variable {m n : Type → Type} {α : Type}

def lift (f : {β : Type} → m β → n β) (c : Channel m α) : Channel n α where
  send batch := f (c.send batch)
  flush := c.flush.map fun g timeout => f (g timeout)
  close := f c.close

/-- The channel of something that is no exporter: every use of it is a fault. -/
def improper [MonadExceptOf Fault m] (typeName : String) : Channel m α where
  send _ := throw (.noMember typeName "export")
  flush := some fun _ => throw (.noMember typeName "force_flush")
  close := throw (.noMember typeName "shutdown")

end Channel

/-- The timeout of a flush that was given none, in milliseconds. -/
def defaultFlushTimeout : Datum := .int 30000

end Telemetry
