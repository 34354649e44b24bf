import Telemetry.Processor.Basic
import Telemetry.Proofs.Distinct
import Telemetry.Provider.Meter
import Telemetry.Sampler
import Telemetry.Selection

/-! # Settings to blame

A fault that comes of reading the settings is the fault of a setting that is there. Most of these are
configuration faults and name the setting. A number may also parse and then be too small, too large or
at odds with another one, and what is made from it raises a fault of its own. -/

namespace Telemetry

/-! ## What raises in a sequence -/

theorem Except.error_of_bind {α β : Type} {x : Except Fault α} {k : α → Except Fault β} {f : Fault}
    (h : (x >>= k) = .error f) : x = .error f ∨ ∃ a, x = .ok a ∧ k a = .error f := by
  cases x with
  | error e => exact .inl (congrArg Except.error (Except.error.inj h))
  | ok a => exact .inr ⟨a, rfl, h⟩

theorem Except.error_of_map {α β : Type} {x : Except Fault α} {g : α → β} {f : Fault} (h : x.map g = .error f) :
    x = .error f := by
  cases x with
  | error e => exact congrArg Except.error (Except.error.inj h)
  | ok a => cases h

theorem Except.error_of_mapM {α β : Type} {g : α → Except Fault β} {f : Fault} :
    ∀ {as : List α}, as.mapM g = .error f → ∃ a ∈ as, g a = .error f
  | [], h => by
    rw [List.mapM_nil] at h
    cases h
  | a :: as, h => by
    rw [List.mapM_cons] at h
    rcases error_of_bind h with h | ⟨b, -, h⟩
    · exact ⟨a, List.mem_cons_self, h⟩
    rcases error_of_bind h with h | ⟨bs, -, h⟩
    · obtain ⟨a', ha, h⟩ := error_of_mapM h
      exact ⟨a', List.mem_cons_of_mem a ha, h⟩
    · cases h

namespace BatchKeys

def all (keys : BatchKeys) : List String :=
  [keys.scheduleDelay, keys.maxExportBatchSize, keys.exportTimeout, keys.maxQueueSize]

end BatchKeys

namespace Properties
variable {p : Properties}

/-- A fault that the setting of a key is to blame for: one that names the key; that of a duration with
too many digits; or that of a number which reads well and is out of bounds where it is used. -/
inductive Blames (p : Properties) (key : String) : Fault → Prop
  | configuration {c : ConfigurationFault} : c.key = some key → Blames p key (.configuration c)
  | digits {n : Nat} : p.durationMillis? key = .error (.tooManyDigits n) → Blames p key (.tooManyDigits n)
  | timeout {signal : Signal} {m : Int} {f : Fault} :
    key = Otlp.genericKey "timeout" ∨ key = Otlp.signalKey signal.name "timeout" →
    p.durationMillis? key = .ok (some m) → Otlp.seconds m = .error f → Blames p key f
  | interval {m : Int} : key = Names.metricExportInterval → p.durationMillis? key = .ok (some m) → m ≤ 0 →
    Blames p key (.limit (.interval m))
  | batch {signal : Signal} {settings : BatchSettings} {f : Fault} :
    key ∈ (BatchSettings.keys signal).all → BatchSettings.read p (BatchSettings.keys signal) = .ok settings →
    (settings.limits (.standard signal)).check = .error f → Blames p key f

def Blamed (p : Properties) (f : Fault) : Prop := ∃ key, p.contains key = true ∧ p.Blames key f

/-! ## Reading -/

theorem contains_of_string? {key value : String} (h : p.string? key = some value) : p.contains key = true := by
  unfold string? at h
  rw [contains, OrderedMap.contains_eq]
  cases hg : p.settings.get? (Key.normalize key) with
  | none => rw [hg] at h; cases h
  | some v => rfl

theorem string?_unset {key : String} (h : ¬ p.contains key = true) : p.string? key = none := by
  cases hs : p.string? key with
  | none => rfl
  | some value => exact absurd (contains_of_string? hs) h

theorem readWith_unset {α : Type} {key : String} {read : String → Except Fault α} (h : ¬ p.contains key = true) :
    p.readWith key read = .ok none := by
  rw [readWith, string?_unset h]

theorem string?_of_readWith_error {α : Type} {key : String} {read : String → Except Fault α} {f : Fault}
    (h : p.readWith key read = .error f) : ∃ value, p.string? key = some value ∧ read value = .error f := by
  unfold readWith at h
  split at h
  · cases h
  · rename_i value hv
    exact ⟨value, hv, Except.error_of_map h⟩

theorem string?_of_readWith_some {α : Type} {key : String} {read : String → Except Fault α} {a : α}
    (h : p.readWith key read = .ok (some a)) : ∃ value, p.string? key = some value := by
  unfold readWith at h
  split at h
  · cases h
  · rename_i value hv
    exact ⟨value, hv⟩

theorem some_of_readWith_set {α : Type} {key value : String} {read : String → Except Fault α} {v : Option α}
    (hv : p.string? key = some value) (h : p.readWith key read = .ok v) : ∃ a, v = some a := by
  have hr : p.readWith key read = (read value).map some := by rw [readWith, hv]
  rw [hr] at h
  cases hread : read value with
  | error f =>
    rw [hread] at h
    cases h
  | ok a =>
    rw [hread] at h
    cases h
    exact ⟨a, rfl⟩

def NamesKey (key : String) (f : Fault) : Prop := ∃ c, f = .configuration c ∧ c.key = some key

theorem names_of_int? {key : String} {f : Fault} (h : p.int? key = .error f) : p.contains key = true ∧ NamesKey key f := by
  obtain ⟨value, hv, hf⟩ := string?_of_readWith_error h
  split at hf
  · cases hf
  · cases hf
    exact ⟨contains_of_string? hv, _, rfl, rfl⟩

theorem names_of_float? {key : String} {f : Fault} (h : p.float? key = .error f) :
    p.contains key = true ∧ NamesKey key f := by
  obtain ⟨value, hv, hf⟩ := string?_of_readWith_error h
  split at hf
  · cases hf
  · cases hf
    exact ⟨contains_of_string? hv, _, rfl, rfl⟩

theorem notMap_of_error {key : String} {f : Fault} (h : p.map key = .error f) :
    ∃ value, p.string? key = some value ∧ f = .configuration (.notMap key value) := by
  unfold Properties.map at h
  split at h
  · cases h
  · rename_i value hv
    split at h
    · cases h
    · cases h
      exact ⟨value, hv, rfl⟩

theorem names_of_map {key : String} {f : Fault} (h : p.map key = .error f) : p.contains key = true ∧ NamesKey key f := by
  obtain ⟨value, hv, rfl⟩ := notMap_of_error h
  exact ⟨contains_of_string? hv, _, rfl, rfl⟩

theorem blamed_of_names {key : String} {f : Fault} (h : p.contains key = true ∧ NamesKey key f) : p.Blamed f := by
  obtain ⟨hc, c, rfl, hk⟩ := h
  exact ⟨key, hc, .configuration hk⟩

theorem blamed_durationMillis? {key : String} {f : Fault} (h : p.durationMillis? key = .error f) : p.Blamed f := by
  obtain ⟨value, hv, hf⟩ := string?_of_readWith_error h
  have hc := contains_of_string? hv
  split at hf
  · cases hf
    exact ⟨key, hc, .configuration rfl⟩
  · split at hf
    · cases hf
    · cases hf
      exact ⟨key, hc, .digits h⟩

/-! ## Numbers that are used -/

theorem blamed_seconds (signal : Signal) {key : String} {m : Int} {f : Fault}
    (hk : key = Otlp.genericKey "timeout" ∨ key = Otlp.signalKey signal.name "timeout")
    (hm : p.durationMillis? key = .ok (some m)) (h : Otlp.seconds m = .error f) : p.Blamed f := by
  obtain ⟨value, hv⟩ := string?_of_readWith_some hm
  exact ⟨key, contains_of_string? hv, .timeout hk hm h⟩

theorem blamed_options {signal : Signal} {f : Fault} (h : Otlp.options p signal.name = .error f) : p.Blamed f := by
  unfold Otlp.options at h
  rcases Except.error_of_bind h with h | ⟨generic, -, h⟩
  · exact blamed_of_names (names_of_map h)
  rcases Except.error_of_bind h with h | ⟨own, -, h⟩
  · exact blamed_of_names (names_of_map h)
  rcases Except.error_of_bind h with h | ⟨fallback, hg, h⟩
  · exact blamed_durationMillis? h
  rcases Except.error_of_bind h with h | ⟨millis, ho, h⟩
  · exact blamed_durationMillis? h
  rcases Except.error_of_bind h with h | ⟨timeout, -, h⟩
  · cases millis with
    | some m => exact blamed_seconds signal (.inr rfl) ho (Except.error_of_map h)
    | none =>
      cases fallback with
      | some m => exact blamed_seconds signal (.inl rfl) hg (Except.error_of_map h)
      | none => cases h
  · cases h

theorem blamed_ratioOf {f : Fault} (h : Sampler.ratioOf p = .error f) : p.Blamed f := by
  unfold Sampler.ratioOf at h
  rcases Except.error_of_bind h with h | ⟨rate?, hr, h⟩
  · exact blamed_of_names (names_of_float? h)
  cases rate? with
  | none =>
    have h1 : Sampler.ofRate (Binary64.ofInt 1) = .ok (.ratio (Binary64.ofInt 1)) := if_pos (by decide)
    simp only [Option.getD_none, h1] at h
    cases h
  | some rate =>
    obtain ⟨value, hv⟩ := string?_of_readWith_some hr
    simp only [Option.getD_some] at h
    split at h
    · cases h
    · cases h
      exact ⟨_, contains_of_string? hv, .configuration rfl⟩

theorem ofProperties_default (h : p.string? Names.tracesSampler = none) :
    Sampler.ofProperties p = .ok .standard := by
  have hn : Text.lowered Names.defaultSampler = "parentbased_always_on" := by decide +kernel
  unfold Sampler.ofProperties
  rw [h, Option.getD_none, hn]
  rfl

theorem blamed_sampler {f : Fault} (h : Sampler.ofProperties p = .error f) : p.Blamed f := by
  cases hs : p.string? Names.tracesSampler with
  | none =>
    rw [ofProperties_default hs] at h
    cases h
  | some value =>
    unfold Sampler.ofProperties at h
    simp only at h
    split at h
    · cases h
    · cases h
    · cases h
    · cases h
    · exact blamed_ratioOf h
    · exact blamed_ratioOf (Except.error_of_map h)
    · cases h
      exact ⟨_, contains_of_string? hs, .configuration rfl⟩

/-! ## Batches and readers -/

theorem blamed_read {signal : Signal} {f : Fault} (h : BatchSettings.read p (BatchSettings.keys signal) = .error f) :
    p.Blamed f := by
  unfold BatchSettings.read at h
  rcases Except.error_of_bind h with h | ⟨delay, -, h⟩
  · exact blamed_durationMillis? h
  rcases Except.error_of_bind h with h | ⟨size, -, h⟩
  · exact blamed_of_names (names_of_int? h)
  rcases Except.error_of_bind h with h | ⟨timeout, -, h⟩
  · exact blamed_durationMillis? h
  rcases Except.error_of_bind h with h | ⟨queue, -, h⟩
  · exact blamed_of_names (names_of_int? h)
  · cases h

theorem check_standard (signal : Signal) : (BatchLimits.standard signal).check = .ok () := by
  cases signal <;> rfl

theorem blamed_limits {signal : Signal} {settings : BatchSettings} {f : Fault}
    (hs : BatchSettings.read p (BatchSettings.keys signal) = .ok settings)
    (hc : (settings.limits (.standard signal)).check = .error f) : p.Blamed f := by
  by_cases h : ∃ key ∈ (BatchSettings.keys signal).all, p.contains key = true
  · obtain ⟨key, hk, hp⟩ := h
    exact ⟨key, hp, .batch hk hs hc⟩
  · have hn : ∀ key ∈ (BatchSettings.keys signal).all, ¬ p.contains key = true := fun key hk hp => h ⟨key, hk, hp⟩
    have he : BatchSettings.read p (BatchSettings.keys signal) = .ok {} := by
      unfold BatchSettings.read durationMillis? int?
      simp only [BatchKeys.all, List.forall_mem_cons] at hn
      rw [readWith_unset hn.1, readWith_unset hn.2.1, readWith_unset hn.2.2.1, readWith_unset hn.2.2.2.1]
      rfl
    rw [he] at hs
    cases hs
    exact absurd ((check_standard signal).symm.trans hc) nofun

theorem blamed_configure {τ ε : Type} {signal : Signal} {exporters : OrderedMap String (Customized τ (Exporter ε))}
    {f : Fault} (h : Processor.configure signal exporters (some p) = .error f) : p.Blamed f := by
  unfold Processor.configure at h
  simp only at h
  split at h
  · cases h
  rcases Except.error_of_bind h with h | ⟨settings, hs, h⟩
  · exact blamed_read h
  rcases Except.error_of_bind h with h | ⟨made, -, h⟩
  · unfold Processor.batching at h
    simp only at h
    split at h
    · rename_i fault hc
      cases h
      exact blamed_limits hs hc
    · cases h
  · cases h

theorem blamed_readers {ε : Type} {asked : Option Int} {exporters : List (Exporter ε)} {f : Fault}
    (ha : p.durationMillis? Names.metricExportInterval = .ok asked)
    (h : exporters.mapM (MetricReader.make (asked.getD Names.defaultMetricExportIntervalMillis)) = .error f) :
    p.Blamed f := by
  obtain ⟨e, -, he⟩ := Except.error_of_mapM h
  unfold MetricReader.make at he
  split at he
  · rename_i hm
    cases asked with
    | none => exact absurd hm (by decide)
    | some m =>
      cases he
      obtain ⟨value, hv⟩ := string?_of_readWith_some ha
      exact ⟨_, contains_of_string? hv, .interval rfl ha hm⟩
  · cases he

/-! ## Names -/

theorem list?_unset {key : String} (h : ¬ p.contains key = true) : p.list? key = none := by
  rw [list?, string?_unset h, Option.map_none]

theorem blamed_names {key noun : String} {default : List String} {f : Fault}
    (hd : ¬ (default.eraseDups.contains Names.none = true ∧ 1 < default.eraseDups.length))
    (h : Selection.names p key noun default = .error f) : p.Blamed f := by
  by_cases hp : p.contains key = true
  · unfold Selection.names at h
    simp only at h
    split at h
    · split at h
      · cases h
        exact ⟨key, hp, .configuration rfl⟩
      · cases h
    · cases h
  · unfold Selection.names at h
    simp only [list?_unset hp, Option.getD_none] at h
    split at h
    · rename_i hn
      split at h
      · rename_i hl
        exact absurd ⟨hn, hl⟩ hd
      · cases h
    · cases h

end Properties

end Telemetry
