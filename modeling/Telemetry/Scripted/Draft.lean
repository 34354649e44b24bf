import Telemetry.Provider.Tracer
import Telemetry.Processor.Running
import Telemetry.Assembly.Running
import Telemetry.Scripted.Host

/-! # Drafts

Tracer settings that scripted functions work on one after the other, and the providers made from
them. -/

namespace Telemetry.Scripted

structure Draft where
  own : State := {}
  /-- The settings, unless something else was put in their place. -/
  subject : Subject := .settings {}
  built : List (TracerProvider Device Nat Subject) := []

namespace Draft

/-- Replaces the settings by what a function returns, and says whether these are the same ones. What
was changed before a fault stays changed. -/
def apply (d : Draft) (fn : Fn) : Except Fault Bool × Draft :=
  let (result, v) := (applyTo fn d.subject (.ofSource .empty)).run { own := d.own }
  match result with
  | .ok (subject, same) => (.ok same, { d with own := v.own, subject })
  | .error f => (.error f, { d with own := v.own, subject := v.own.handed })

/-- The settings, for the use of one of their members. -/
def settings (d : Draft) (member : String) : Except Fault Settings :=
  (d.subject.asArtifact .tracerProvider).use member

/-- Makes a provider, which is added to those made before, and says whether its resource is the one
of the settings. -/
def build (d : Draft) : Except Fault (TracerProvider Device Nat Subject × Bool) × Draft :=
  match d.settings "build" with
  | .ok settings =>
    let t := TracerSettings.build settings
    (.ok (t, settings.resource.isSome), { d with built := d.built ++ [t] })
  | .error f => (.error f, d)

def recordOn (d : Draft) (n : Nat) :
    List (String × List (String × Datum)) → Except Fault Unit × Draft
  | [] => (.ok (), d)
  | (name, attributes) :: rest =>
    match d.built[n]? with
    | none => (.ok (), d)
    | some t =>
      let ((t, result), s) := (t.recordSpan host name attributes).run ⟨d.own, {}⟩
      let d := { d with own := s.own, built := d.built.set n t }
      match result with
      | .ok () => d.recordOn n rest
      | .error f => (.error f, d)

/-- Records root spans on a provider by its number; negative numbers count from the last one. -/
def recordSpans (d : Draft) (n : Int) (spans : List (String × List (String × Datum))) :
    Except Fault Unit × Draft :=
  let i := if n < 0 then n + d.built.length else n
  if 0 ≤ i ∧ i < d.built.length then d.recordOn i.toNat spans
  else (.error (fault "IndexError" "list index out of range"), d)

end Draft

end Telemetry.Scripted
