import Telemetry.Scripted.Script

/-! # Recording exporters

The channels of scripted exporters. Everything they are called with is kept under their id, before
they answer. -/

namespace Telemetry.Scripted

/-- Adds uses under an id, which is known from then on even if there are none. -/
def State.note (s : State) (id : String) (uses : List Use) : State :=
  { s with uses := s.uses.insert id (((s.uses.get? id).getD []) ++ uses) }

def note (id : String) (uses : List Use) : Act stage Unit := modify fun s => s.note id uses

def Answer.give : Answer → Act stage Outcome
  | gives outcome => pure outcome
  | raises f => throw f

def recorder (id : String) (b : Behavior) : Channel (Act stage) Item where
  send batch := do
    note id (batch.map .item)
    b.answer.give
  flush :=
    if b.canFlush then some fun timeout => do
      note id [.flush timeout]
      match b.flush with
      | .ok d => return d
      | .error f => throw f
    else none
  close := do
    note id [.shutdown]
    match b.shutdown with
    | some f => throw f
    | none => return ()

/-- What a wrapper notes of an item: of a span only the name. -/
def heading : Item → Item
  | .span name _ => .span name .empty
  | item => item

/-- Notes batches and forwards everything. -/
def wrapper (id : String) (inner : Channel (Act stage) Item) : Channel (Act stage) Item where
  send batch := do
    note id (batch.map fun item => .item (heading item))
    inner.send batch
  flush := inner.flush
  close := inner.close

def silent : Channel (Act stage) Item where
  send _ := pure .success
  flush := some fun _ => pure (.bool true)
  close := pure ()

/-- The id under which an exporter of the library is recorded. -/
def otlpId (signal : Signal) : String := "otlp-" ++ signal.name

mutual

def channel : Exporter Device → Channel (Act stage) Item
  | .otlp signal _ => recorder (otlpId signal) {}
  | .console _ => silent
  | .outside d => d.channel

def Device.channel : Device → Channel (Act stage) Item
  | .recorder id b => Scripted.recorder id b
  | .wrapper id (.exporter e) => Scripted.wrapper id (Scripted.channel e)
  | .wrapper id s => Scripted.wrapper id (.improper s.typeName)

end

def read (id : String) (points : List Point) : Act stage Unit :=
  modify fun s => { s with readings := s.readings.insert id points }

/-- Metric exporters keep their last points and record nothing else; closing them never fails. -/
def metricChannel : Exporter Device → Channel (Act stage) Point
  | .otlp signal _ =>
    ⟨fun points => do read (otlpId signal) points; return .success, none, pure ()⟩
  | .outside (.recorder id b) =>
    ⟨fun points => do read id points; b.answer.give, none, pure ()⟩
  | _ => ⟨fun _ => pure .success, none, pure ()⟩

end Telemetry.Scripted
