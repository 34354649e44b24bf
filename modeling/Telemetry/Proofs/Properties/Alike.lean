import Telemetry.Assembly.Resource
import Telemetry.Exporter.Selection
import Telemetry.Processor.Basic
import Telemetry.Proofs.Properties.Layers
import Telemetry.Sampler

/-! # Snapshots that read alike

Whatever is made from a snapshot is made from the trimmed texts of its settings. Two snapshots with the
same texts make the same, faults included. A setting that is blank or set to nothing has no text, so a
snapshot reads the same without it. -/

namespace Telemetry

/-! ## Maps with some of their values -/

section
variable {κ υ : Type}

def OrderedMap.keep (m : OrderedMap κ υ) (test : υ → Bool) : OrderedMap κ υ :=
  ⟨m.entries.filter fun e => test e.2, m.distinct.sublist ((List.filter_sublist).map Prod.fst)⟩

theorem OrderedMap.get?_keep [DecidableEq κ] (m : OrderedMap κ υ) (test : υ → Bool) (k : κ) :
    (m.keep test).get? k = (m.get? k).filter test := by
  ext v
  -- A key has one value, so that the value is kept or dropped is all there is to it.
  have hm : (k, v) ∈ (m.keep test).entries ↔ (k, v) ∈ m.entries ∧ test v = true := List.mem_filter
  rw [OrderedMap.get?_eq_some_iff, hm, Option.filter_eq_some_iff, OrderedMap.get?_eq_some_iff]

end

namespace Properties

/-! ## Snapshots with the same texts -/

def Alike (p q : Properties) : Prop := ∀ key, q.string? key = p.string? key

section
variable {p q : Properties} (h : p.Alike q)
include h

theorem Alike.read (kind : Reading) (key : String) (default : Option Datum) :
    q.read kind key default = p.read kind key default :=
  read_congr (h key) kind default

theorem Alike.int? (key : String) : q.int? key = p.int? key := by
  simp only [Properties.int?, readWith, h key]

theorem Alike.float? (key : String) : q.float? key = p.float? key := by
  simp only [Properties.float?, readWith, h key]

theorem Alike.durationMillis? (key : String) : q.durationMillis? key = p.durationMillis? key := by
  simp only [Properties.durationMillis?, readWith, h key]

theorem Alike.list? (key : String) : q.list? key = p.list? key := by
  simp only [Properties.list?, h key]

theorem Alike.map (key : String) : q.map key = p.map key := by
  simp only [Properties.map, h key]

/-! ### What is made from them -/

theorem Alike.names (key noun : String) (default : List String) :
    Selection.names q key noun default = Selection.names p key noun default := by
  simp only [Selection.names, h.list?]

theorem Alike.sampler : Sampler.ofProperties q = Sampler.ofProperties p := by
  have hr : Sampler.ratioOf q = Sampler.ratioOf p := by simp only [Sampler.ratioOf, h.float?]
  simp only [Sampler.ofProperties, h Names.tracesSampler, hr]

theorem Alike.options (signal : String) : Otlp.options q signal = Otlp.options p signal := by
  have he : Otlp.endpoint? q signal = Otlp.endpoint? p signal := by
    simp only [Otlp.endpoint?, h (Otlp.signalKey signal "endpoint"), h (Otlp.genericKey "endpoint")]
  simp only [Otlp.options, h.map, h.durationMillis?, he]

theorem Alike.builtinExporter {ε : Type} {signal : Signal} {name : String}
    {make : Properties → Except Fault (Exporter ε)} (hm : builtinExporter? signal name = some make) :
    make q = make p := by
  unfold builtinExporter? at hm
  split at hm
  · cases hm
    simp only [h.options]
  · split at hm
    · cases hm
      rfl
    · cases hm

theorem Alike.configuredResource : Telemetry.configuredResource q = Telemetry.configuredResource p := by
  simp only [Telemetry.configuredResource, configuredAttributes, h.map, h Names.serviceName]

theorem Alike.processors {ε τ : Type} (signal : Signal) (exporters : OrderedMap String (Customized τ (Exporter ε))) :
    Processor.configure signal exporters (some q) = Processor.configure signal exporters (some p) := by
  simp only [Processor.configure, BatchSettings.read, h.durationMillis?, h.int?]

end

theorem Alike.refl (p : Properties) : p.Alike p := fun _ => rfl

/-! ## Blank settings -/

def blank : Option String → Bool
  | none => true
  | some value => Text.allBlank value

def withoutBlanks (p : Properties) : Properties := ⟨p.settings.keep fun value => !blank value⟩

theorem alike_withoutBlanks (p : Properties) : p.Alike p.withoutBlanks := by
  intro key
  unfold string? withoutBlanks
  rw [OrderedMap.get?_keep]
  cases p.settings.get? (Key.normalize key) with
  | none => rfl
  | some value =>
    cases value with
    | none => rfl
    | some text =>
      by_cases hb : Text.allBlank text = true
      · simp [Option.filter, blank, hb]
      · simp [Option.filter, blank, hb]

end Properties

end Telemetry
