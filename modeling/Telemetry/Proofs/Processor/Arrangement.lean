import Telemetry.Proofs.Assembly.Builtin
import Telemetry.Proofs.Processor.Configured
import Telemetry.Proofs.Properties.Blame

/-! # How exporters share processors

The exporter named `logging` has a processor of its own, and all others have one batch processor
together, so that each is in exactly one. Batch settings are read when there is such a processor and not
otherwise. Spans and log records are arranged alike: from settings that correspond comes the same
arrangement with the same options, or the same fault but for the key that it names. -/

namespace Telemetry

section
variable {κ υ : Type} [DecidableEq κ]

theorem OrderedMap.keys_erase (m : OrderedMap κ υ) (k : κ) : (m.erase k).keys = m.keys.filter fun k' => k' ≠ k := by
  unfold keys erase
  rw [List.filter_map]
  rfl

theorem OrderedMap.erase_of_get?_none {m : OrderedMap κ υ} {k : κ} (h : m.get? k = none) :
    (m.erase k).entries = m.entries := by
  refine List.filter_eq_self.mpr fun e he => decide_eq_true_iff.mpr ?_
  rintro rfl
  rw [m.get?_eq_some_iff.mpr he] at h
  cases h

theorem OrderedMap.values_perm_erase (m : OrderedMap κ υ) (k : κ) :
    ((m.get? k).toList ++ (m.erase k).values).Perm m.values := by
  unfold values
  cases h : m.get? k with
  | none =>
    rw [erase_of_get?_none h]
    exact List.Perm.refl _
  | some v =>
    obtain ⟨before, after, he⟩ := List.append_of_mem (m.get?_eq_some_iff.mp h)
    have hd := m.distinct
    rw [he, List.map_append, List.map_cons, List.perm_middle.nodup_iff, List.nodup_cons, ← List.map_append] at hd
    have hl : (m.erase k).entries = before ++ after := by
      have hk : ∀ e ∈ before ++ after, decide (e.1 ≠ k) = true := by
        intro e hm
        refine decide_eq_true_iff.mpr fun hk => hd.1 ?_
        exact List.mem_map.mpr ⟨e, hm, hk⟩
      show m.entries.filter _ = _
      rw [he, List.filter_append, List.filter_cons_of_neg (by simp), ← List.filter_append]
      exact List.filter_eq_self.mpr hk
    rw [hl, he, List.map_append, List.map_append, List.map_cons, Option.toList_some, List.singleton_append]
    exact List.perm_middle.symm

end

/-! ## Reading the settings -/

def Except.fault? {α : Type} : Except Fault α → Option Fault
  | .ok _ => none
  | .error f => some f

theorem Except.bind_eq_error_iff {α β : Type} {x : Except Fault α} {k : α → Except Fault β} {f : Fault} :
    (x >>= k) = .error f ↔ x = .error f ∨ ∃ a, x = .ok a ∧ k a = .error f := by
  constructor
  · exact error_of_bind
  · rintro (rfl | ⟨a, rfl, h⟩)
    · rfl
    · exact h

theorem Except.head?_faults {α : Type} {x : Except Fault α} {faults : List Fault} {f : Fault} :
    ((fault? x).toList ++ faults).head? = some f ↔ x = .error f ∨ ∃ a, x = .ok a ∧ faults.head? = some f := by
  cases x with
  | error g => simp [fault?]
  | ok a => simp [fault?]

namespace BatchSettings

def faults (p : Properties) (keys : BatchKeys) : List Fault :=
  (Except.fault? (p.durationMillis? keys.scheduleDelay)).toList ++
    ((Except.fault? (p.int? keys.maxExportBatchSize)).toList ++
    ((Except.fault? (p.durationMillis? keys.exportTimeout)).toList ++
    ((Except.fault? (p.int? keys.maxQueueSize)).toList ++ [])))

theorem read_eq_error_iff {p : Properties} {keys : BatchKeys} {f : Fault} :
    read p keys = .error f ↔ (faults p keys).head? = some f := by
  have hlast : ∀ settings : BatchSettings, (pure settings : Except Fault _) = .error f ↔ ([] : List Fault).head? = some f :=
    fun settings => ⟨nofun, nofun⟩
  simp only [read, faults, Except.bind_eq_error_iff, Except.head?_faults, hlast]

theorem read_eq_ok_iff {p : Properties} {keys : BatchKeys} :
    (∃ settings, read p keys = .ok settings) ↔ faults p keys = [] := by
  rw [← List.head?_eq_none_iff]
  cases h : read p keys with
  | ok settings =>
    refine iff_of_true ⟨settings, rfl⟩ (Option.eq_none_iff_forall_ne_some.mpr fun f hf => ?_)
    cases h.symm.trans (read_eq_error_iff.mpr hf)
  | error f =>
    rw [read_eq_error_iff.mp h]
    exact iff_of_false nofun nofun

end BatchSettings

/-! ## The arrangement -/

def Processor.exporters {ε τ : Type} : Processor ε τ → List (Customized τ (Exporter ε))
  | .simple e _ => [e]
  | .batch b => b.exporters

section
variable {W : Outside} {exporters : Exporters W} {signal : Signal}

theorem Exporters.exporters_arranged (exporters : Exporters W) (signal : Signal) (limits : BatchLimits) :
    (exporters.arranged signal limits).flatMap Processor.exporters =
      (exporters.get? Names.logging).toList ++ exporters.shared.values := by
  have hfirst : exporters.immediates.flatMap Processor.exporters = (exporters.get? Names.logging).toList := by
    unfold immediates
    cases exporters.get? Names.logging <;> rfl
  have hothers : (if exporters.shared.isEmpty then []
      else [Processor.batch (τ := W.Thing) { signal, exporters := exporters.shared.values, limits }]).flatMap
        Processor.exporters = exporters.shared.values := by
    split
    · rename_i hs
      rw [OrderedMap.values, List.isEmpty_iff.mp hs]
      rfl
    · exact List.flatMap_singleton _ _
  rw [arranged, List.flatMap_append, hfirst, hothers]

theorem Exporters.perm_arranged (exporters : Exporters W) (signal : Signal) (limits : BatchLimits) :
    ((exporters.arranged signal limits).flatMap Processor.exporters).Perm exporters.values := by
  rw [exporters_arranged]
  exact exporters.values_perm_erase Names.logging

namespace Processor

section
variable (hn : ∀ e ∈ exporters.values, e.isNothing = false)
include hn

theorem isNothing_logging (e : Customized W.Thing (Exporter W.Exporter)) (he : exporters.get? Names.logging = some e) :
    e.isNothing = false :=
  hn e (OrderedMap.mem_values.mpr ⟨_, he⟩)

theorem configure_empty (he : exporters.shared.isEmpty = true) (properties : Option Properties) :
    configure signal exporters properties = .ok exporters.immediates := by
  rw [configure_eq (isNothing_logging hn), if_pos he]

theorem configure_shared (he : exporters.shared.isEmpty = false) (properties : Option Properties) :
    configure signal exporters properties = (do
      let settings ← properties.elim (.ok {}) fun p => BatchSettings.read p (BatchSettings.keys signal)
      let limits := settings.limits (.standard signal)
      limits.check
      return exporters.arranged signal limits) := by
  rw [configure_eq (isNothing_logging hn), he, if_neg Bool.false_ne_true]
  refine congrArg _ (funext fun settings => ?_)
  simp only [batching, Exporters.arranged, he, Bool.false_eq_true, if_false]
  cases (settings.limits (.standard signal)).check <;> rfl

theorem configure_unset (he : exporters.shared.isEmpty = false) :
    configure signal exporters none = .ok (exporters.arranged signal (.standard signal)) := by
  rw [configure_shared hn he, Option.elim_none]
  show (BatchLimits.standard signal).check >>= _ = _
  rw [Properties.check_standard]
  rfl

theorem configure_of_read {p : Properties} {settings : BatchSettings} (he : exporters.shared.isEmpty = false)
    (hs : BatchSettings.read p (BatchSettings.keys signal) = .ok settings) :
    configure signal exporters (some p) = (settings.limits (.standard signal)).check.map
      fun _ => exporters.arranged signal (settings.limits (.standard signal)) := by
  rw [configure_shared hn he, Option.elim_some, hs]
  show (settings.limits (.standard signal)).check >>= _ = _
  cases (settings.limits (.standard signal)).check <;> rfl

end

end Processor

end

/-! ## Spans and log records -/

def ConfigurationFault.under (key : String) : ConfigurationFault → ConfigurationFault
  | notWhole _ value => notWhole key value
  | notReal _ value => notReal key value
  | notDuration _ value => notDuration key value
  | notMap _ value => notMap key value
  | noneAmongOthers _ noun => noneAmongOthers key noun
  | unrecognized _ name => unrecognized key name
  | outsideUnitInterval _ ratio => outsideUnitInterval key ratio
  | reported message _ details => reported message (some key) details

def Fault.under (key : String) : Fault → Fault
  | configuration fault => configuration (fault.under key)
  | fault => fault

/-- What comes of the options of span batches and what comes of those of log batches agree, but for the
key under which a fault knows its option. -/
inductive AgreeUpToKey {α β : Type} (R : α → β → Prop) : Except Fault α → Except Fault β → Prop
  | ok {a : α} {b : β} : R a b → AgreeUpToKey R (.ok a) (.ok b)
  | error (option : String) (f : Fault) :
    AgreeUpToKey R (.error (f.under ("otel.bsp." ++ option))) (.error (f.under ("otel.blrp." ++ option)))

theorem AgreeUpToKey.bind {α β γ δ : Type} {R : α → β → Prop} {S : γ → δ → Prop} {x : Except Fault α}
    {y : Except Fault β} {k : α → Except Fault γ} {l : β → Except Fault δ} (h : AgreeUpToKey R x y)
    (hk : ∀ a b, R a b → AgreeUpToKey S (k a) (l b)) : AgreeUpToKey S (x >>= k) (y >>= l) := by
  cases h with
  | ok hr => exact hk _ _ hr
  | error option f => exact .error option f

theorem AgreeUpToKey.same {α β : Type} {R : α → β → Prop} {f : Fault} (h : ∀ key, f.under key = f) :
    AgreeUpToKey R (.error f) (.error f) := by
  have ha : AgreeUpToKey R (.error (f.under _)) (.error (f.under _)) := .error "" f
  rwa [h, h] at ha

def BatchSettings.options : List String :=
  ["schedule.delay", "max.export.batch.size", "export.timeout", "max.queue.size"]

def BatchSettings.Correspond (p q : Properties) : Prop :=
  ∀ option ∈ options, q.string? ("otel.blrp." ++ option) = p.string? ("otel.bsp." ++ option)

section
variable {p q : Properties}

section
variable (option : String) (h : q.string? ("otel.blrp." ++ option) = p.string? ("otel.bsp." ++ option))
include h

theorem agree_int? : AgreeUpToKey Eq (p.int? ("otel.bsp." ++ option)) (q.int? ("otel.blrp." ++ option)) := by
  unfold Properties.int? Properties.readWith
  rw [h]
  cases p.string? ("otel.bsp." ++ option) with
  | none => exact .ok rfl
  | some value =>
    simp only
    split
    · exact .ok rfl
    · exact .error option (.configuration (.notWhole "" value))

theorem agree_durationMillis? :
    AgreeUpToKey Eq (p.durationMillis? ("otel.bsp." ++ option)) (q.durationMillis? ("otel.blrp." ++ option)) := by
  unfold Properties.durationMillis? Properties.readWith
  rw [h]
  cases p.string? ("otel.bsp." ++ option) with
  | none => exact .ok rfl
  | some value =>
    simp only
    split
    · exact .error option (.configuration (.notDuration "" value))
    · split
      · exact .ok rfl
      · exact .error option (.tooManyDigits _)

end

theorem keys_traces : BatchSettings.keys .traces = ⟨"otel.bsp." ++ "schedule.delay",
    "otel.bsp." ++ "max.export.batch.size", "otel.bsp." ++ "export.timeout", "otel.bsp." ++ "max.queue.size"⟩ := rfl

theorem keys_logs : BatchSettings.keys .logs = ⟨"otel.blrp." ++ "schedule.delay",
    "otel.blrp." ++ "max.export.batch.size", "otel.blrp." ++ "export.timeout", "otel.blrp." ++ "max.queue.size"⟩ := rfl

theorem agree_read (h : BatchSettings.Correspond p q) :
    AgreeUpToKey Eq (BatchSettings.read p (BatchSettings.keys .traces))
      (BatchSettings.read q (BatchSettings.keys .logs)) := by
  simp only [BatchSettings.Correspond, BatchSettings.options, List.forall_mem_cons] at h
  obtain ⟨hdelay, hsize, htimeout, hqueue, -⟩ := h
  rw [keys_traces, keys_logs]
  refine AgreeUpToKey.bind (agree_durationMillis? "schedule.delay" hdelay) ?_
  rintro delay _ rfl
  refine AgreeUpToKey.bind (agree_int? "max.export.batch.size" hsize) ?_
  rintro size _ rfl
  refine AgreeUpToKey.bind (agree_durationMillis? "export.timeout" htimeout) ?_
  rintro timeout _ rfl
  refine AgreeUpToKey.bind (agree_int? "max.queue.size" hqueue) ?_
  rintro queue _ rfl
  exact .ok rfl

end

theorem BatchLimits.under_of_check {l : BatchLimits} {f : Fault} (h : l.check = .error f) (key : String) :
    f.under key = f := by
  unfold check at h
  repeat' split at h
  all_goals cases h
  all_goals rfl

theorem BatchLimits.check_delay {l : BatchLimits} {d : Int} (hd : 0 < d) (hi : (Binary64.ofInt d).isInfinite = false) :
    { l with scheduleDelayMillis := d }.check = { l with scheduleDelayMillis := 1 }.check := by
  have h1 : (Binary64.ofInt 1).isInfinite = false := by decide
  have hd : ¬ d ≤ 0 := by omega
  simp only [check, hd, hi, h1, if_false, Bool.false_eq_true, show ¬ (1 : Int) ≤ 0 by decide]

theorem BatchSettings.check_limits (settings : BatchSettings) :
    (settings.limits (.standard .logs)).check = (settings.limits (.standard .traces)).check := by
  obtain ⟨delay, size, timeout, queue⟩ := settings
  cases delay with
  | some delay => rfl
  | none =>
    let l : BatchLimits := ⟨1, size.getD 512, timeout.getD 30000, queue.getD 2048⟩
    have hlogs : { l with scheduleDelayMillis := 1000 }.check = l.check := BatchLimits.check_delay (by decide) (by decide)
    have htraces : { l with scheduleDelayMillis := 5000 }.check = l.check := BatchLimits.check_delay (by decide) (by decide)
    exact hlogs.trans htraces.symm

section
variable {W V : Outside} {exporters : Exporters W} {exporters' : Exporters V}
  (hn : ∀ e ∈ exporters.values, e.isNothing = false) (hn' : ∀ e ∈ exporters'.values, e.isNothing = false)
  (hk : exporters'.keys = exporters.keys)
include hk

theorem Exporters.isEmpty_shared_congr : exporters'.shared.isEmpty = exporters.shared.isEmpty := by
  unfold shared
  rw [OrderedMap.isEmpty_eq_keys, OrderedMap.isEmpty_eq_keys, OrderedMap.keys_erase, OrderedMap.keys_erase, hk]

include hn hn'

theorem Processor.agree_configure {p q : Properties} (h : BatchSettings.Correspond p q) :
    AgreeUpToKey (fun spans records => ∃ settings : BatchSettings,
        spans = exporters.arranged .traces (settings.limits (.standard .traces)) ∧
        records = exporters'.arranged .logs (settings.limits (.standard .logs)))
      (configure .traces exporters (some p)) (configure .logs exporters' (some q)) := by
  have hs := Exporters.isEmpty_shared_congr hk
  cases he : exporters.shared.isEmpty with
  | true =>
    rw [he] at hs
    rw [configure_empty hn he, configure_empty hn' hs]
    refine .ok ⟨{}, ?_, ?_⟩
    · rw [Exporters.arranged, if_pos he, List.append_nil]
    · rw [Exporters.arranged, if_pos hs, List.append_nil]
  | false =>
    rw [he] at hs
    rw [configure_shared hn he, configure_shared hn' hs]
    refine AgreeUpToKey.bind (agree_read h) ?_
    rintro settings _ rfl
    simp only
    have hc := settings.check_limits
    cases ht : (settings.limits (.standard .traces)).check with
    | ok _ =>
      rw [hc.trans ht]
      exact .ok ⟨settings, rfl, rfl⟩
    | error f =>
      rw [hc.trans ht]
      exact .same (BatchLimits.under_of_check ht)

end

/-- Whatever the snapshot says, the exporter named `logging` is in a simple processor of its own and all
others, in their order, in one batch processor, so that each exporter is in one processor, once. The settings
of a batch are read only if there is one, and the first that does not parse is the fault; limits that are
not accepted are another. Spans and log records from maps with the same names are arranged alike. -/
theorem configure_partitions {W : Outside} (exporters : Exporters W) (hn : ∀ e ∈ exporters.values, e.isNothing = false) :
    (∀ signal properties ps, Processor.configure signal exporters properties = .ok ps →
      (∃ limits, ps = exporters.immediates ++ if exporters.shared.isEmpty then []
        else [.batch { signal, exporters := exporters.shared.values, limits }]) ∧
      (ps.flatMap Processor.exporters).Perm exporters.values) ∧
    (exporters.shared.isEmpty = true →
      ∀ signal properties, Processor.configure signal exporters properties = .ok exporters.immediates) ∧
    (exporters.shared.isEmpty = false →
      (∀ signal, Processor.configure signal exporters none = .ok (exporters.arranged signal (.standard signal))) ∧
      ∀ signal p,
        (∀ f, (BatchSettings.faults p (BatchSettings.keys signal)).head? = some f →
          Processor.configure signal exporters (some p) = .error f) ∧
        (BatchSettings.faults p (BatchSettings.keys signal) = [] →
          ∃ settings, BatchSettings.read p (BatchSettings.keys signal) = .ok settings ∧
            let limits := settings.limits (.standard signal)
            Processor.configure signal exporters (some p) =
              limits.check.map fun _ => exporters.arranged signal limits)) ∧
    ∀ {V : Outside} (exporters' : Exporters V), (∀ e ∈ exporters'.values, e.isNothing = false) →
      exporters'.keys = exporters.keys → ∀ p q, BatchSettings.Correspond p q →
      AgreeUpToKey (fun spans records => ∃ settings : BatchSettings,
          spans = exporters.arranged .traces (settings.limits (.standard .traces)) ∧
          records = exporters'.arranged .logs (settings.limits (.standard .logs)))
        (Processor.configure .traces exporters (some p)) (Processor.configure .logs exporters' (some q)) := by
  refine ⟨fun signal properties ps h => ?_, fun he signal properties => Processor.configure_empty hn he properties,
    fun he => ⟨fun signal => Processor.configure_unset hn he, fun signal p => ⟨fun f hf => ?_, fun hf => ?_⟩⟩,
    fun exporters' hn' hk p q h => Processor.agree_configure hn hn' hk h⟩
  · obtain ⟨limits, rfl⟩ := Processor.arranged_of_configure (Processor.isNothing_logging hn) h
    exact ⟨⟨limits, rfl⟩, exporters.perm_arranged signal limits⟩
  · rw [Processor.configure_shared hn he]
    exact Except.bind_eq_error_iff.mpr (.inl (BatchSettings.read_eq_error_iff.mpr hf))
  · obtain ⟨settings, hs⟩ := BatchSettings.read_eq_ok_iff.mpr hf
    exact ⟨settings, hs, Processor.configure_of_read hn he hs⟩

def Exporters.pair : Exporters .void :=
  .ofList [("otlp", .proper (.console .traces)), ("logging", .proper (.console .logs))]

def Properties.malformed (of : String) : Properties :=
  ⟨.ofList [(of ++ "max.queue.size", some "many"), (of ++ "schedule.delay", some " soon ")]⟩

theorem configure_partitions_pair :
    Exporters.pair.shared.isEmpty = false ∧
    Processor.configure .traces Exporters.pair (some (.malformed "otel.bsp.")) =
      .error (.configuration (.notDuration "otel.bsp.schedule.delay" "soon")) ∧
    Processor.configure .logs Exporters.pair (some (.malformed "otel.blrp.")) =
      .error (.configuration (.notDuration "otel.blrp.schedule.delay" "soon")) := by
  obtain ⟨-, -, h, -⟩ := configure_partitions Exporters.pair (by decide)
  have hs : Exporters.pair.shared.isEmpty = false := by decide
  exact ⟨hs, ((h hs).2 .traces _).1 _ rfl, ((h hs).2 .logs _).1 _ rfl⟩

end Telemetry
