import Telemetry.Exporter.Basic

/-! # Fan-out

One channel that forwards to several. A batch succeeds only if it succeeds everywhere; a delegate's
failure does not keep the batch from the others, a fault does.

Spans and log records are forwarded alike, but only a log exporter may come without a flush and is
passed over then. A span exporter without one is a channel whose flush raises, as that of
`Channel.improper` does. -/

namespace Telemetry

variable {m : Type → Type} [Monad m] {α : Type}

def sendAlso (batch : List α) (soFar : Outcome) (c : Channel m α) : m Outcome := do
  let outcome ← c.send batch
  return if outcome.succeeded then soFar else .failure

def flushAlso (timeout : Datum) (soFar : Datum) (c : Channel m α) : m Datum := do
  match c.flush with
  | none => return soFar
  | some flush => return (← flush timeout).conjoin soFar

/-- Forwards to all delegates. No flush stands for a log exporter without one. -/
def fanOut (delegates : List (Channel m α)) : Channel m α where
  send batch := delegates.foldlM (sendAlso batch) .success
  flush := some fun timeout => delegates.foldlM (flushAlso timeout) (.bool true)
  close := delegates.forM (·.close)

end Telemetry
