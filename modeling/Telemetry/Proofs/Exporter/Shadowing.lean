import Telemetry.Proofs.Exporter.Options
import Telemetry.Proofs.Properties.Blame

/-! # Settings of a signal and generic ones

A signal's own endpoint hides the generic one, whatever that is. Its own timeout hides a generic one that can be
read; one that cannot is a fault of its own, and the exporter has no options. -/

namespace Telemetry

def Properties.AgreeBut (key : String) (p q : Properties) : Prop :=
  ∀ k, k ≠ Key.normalize key → q.settings.get? k = p.settings.get? k

theorem Properties.AgreeBut.string? {key : String} {p q : Properties} (h : AgreeBut key p q) (key' : String)
    (hk : Key.normalize key' ≠ Key.normalize key) : q.string? key' = p.string? key' :=
  string?_congr (h _ hk)

theorem Properties.agreeBut_insert (p : Properties) (key : String) (value : Option String) :
    p.AgreeBut key ⟨p.settings.insert (Key.normalize key) value⟩ :=
  fun _ hk => p.settings.get?_insert_of_ne hk value

theorem Properties.agreeBut_erase (p : Properties) (key : String) :
    p.AgreeBut key ⟨p.settings.erase (Key.normalize key)⟩ :=
  fun _ hk => p.settings.get?_erase_of_ne hk

namespace Otlp

/-! ## Keys -/

theorem plain_genericKey : ∀ option ∈ optionNames, (genericKey option).toList.all Key.plain = true := by decide

theorem normalize_genericKey {option : String} (h : option ∈ optionNames) :
    Key.normalize (genericKey option) = genericKey option :=
  Key.normalize_of_plain (plain_genericKey option h)

theorem dots_genericKey : ∀ option ∈ optionNames, (genericKey option).toList.count '.' = 3 := by
  decide

theorem signalKey_eq (signal option : String) :
    signalKey signal option = "otel.exporter.otlp." ++ signal ++ "." ++ option := rfl

theorem dots_signalKey (signal option : String) : 4 ≤ (signalKey signal option).toList.count '.' := by
  have hhead : "otel.exporter.otlp.".toList.count '.' = 3 := by decide
  have hdot : ".".toList.count '.' = 1 := by decide
  rw [signalKey_eq, String.toList_append, String.toList_append, String.toList_append, List.count_append,
    List.count_append, List.count_append, hhead, hdot]
  omega

theorem signalKey_ne_genericKey (signal option : String) {generic : String}
    (hg : generic ∈ optionNames) :
    Key.normalize (signalKey signal option) ≠ Key.normalize (genericKey generic) := by
  intro he
  have hle := Key.count_le_count_normalChars (signalKey signal option).toList
  rw [← String.toList_ofList (l := Key.normalChars _), ← Key.normalize, he, normalize_genericKey hg,
    dots_genericKey generic hg] at hle
  exact absurd ((dots_signalKey signal option).trans hle) (by decide)

theorem genericKey_inj : ∀ option ∈ optionNames, ∀ option' ∈ optionNames,
    genericKey option = genericKey option' → option = option' := by
  decide

theorem genericKey_ne {option option' : String} (h : option ∈ optionNames) (h' : option' ∈ optionNames)
    (hne : option ≠ option') : Key.normalize (genericKey option) ≠ Key.normalize (genericKey option') := by
  rw [normalize_genericKey h, normalize_genericKey h']
  exact fun he => hne (genericKey_inj _ h _ h' he)

/-! ## Answers -/

section
variable {p q : Properties} {signal : String}

theorem headers_congr (signal : String) {option : String} (h : p.AgreeBut (genericKey option) q)
    (ho : option ∈ optionNames) (hne : "headers" ≠ option) :
    headers q signal = headers p signal := by
  have hgeneric := h.string? _ (genericKey_ne (by decide) ho hne)
  have hown := h.string? _ (signalKey_ne_genericKey signal "headers" ho)
  simp only [headers, Properties.map, hgeneric, hown]

theorem or_of_set {value : String} {millis : Option Int} (hv : p.string? (signalKey signal "timeout") = some value)
    (hm : p.durationMillis? (signalKey signal "timeout") = .ok millis) (fallback : Option Int) :
    millis.or fallback = millis := by
  obtain ⟨n, rfl⟩ := Properties.some_of_readWith_set hv hm
  rfl

end

/-- If a signal's own endpoint is set, the generic one makes no difference to the options. Neither does the generic
timeout if the signal's own is set and both snapshots have one that can be read, or none. One that cannot be read
is a fault all the same, unless the headers are one already. -/
theorem own_shadows_generic (p q : Properties) (signal : String) :
    (p.AgreeBut (genericKey "endpoint") q → ∀ value, p.string? (signalKey signal "endpoint") = some value →
      options q signal = options p signal) ∧
    (p.AgreeBut (genericKey "timeout") q → ∀ value, p.string? (signalKey signal "timeout") = some value →
      (∀ f, headers p signal = .error f → options q signal = options p signal) ∧
      (∀ m n, p.durationMillis? (genericKey "timeout") = .ok m → q.durationMillis? (genericKey "timeout") = .ok n →
        options q signal = options p signal) ∧
      ∀ headers? f, headers p signal = .ok headers? → q.durationMillis? (genericKey "timeout") = .error f →
        options q signal = .error f) := by
  constructor
  · intro h value hv
    have hown := h.string? _ (signalKey_ne_genericKey signal "endpoint" (by decide))
    have htimeout := h.string? _ (signalKey_ne_genericKey signal "timeout" (by decide))
    have hgeneric := h.string? (genericKey "timeout") (genericKey_ne (by decide) (by decide) (by decide))
    rw [options_eq, options_eq, headers_congr signal h (by decide) (by decide)]
    simp only [endpoint?, Properties.durationMillis?, Properties.readWith, hown, htimeout, hgeneric, hv]
  · intro h value hv
    have htimeout := h.string? _ (signalKey_ne_genericKey signal "timeout" (by decide))
    have hown : q.durationMillis? (signalKey signal "timeout") = p.durationMillis? (signalKey signal "timeout") := by
      simp only [Properties.durationMillis?, Properties.readWith, htimeout]
    have hheaders := headers_congr signal h (by decide) (by decide)
    have hendpoint : endpoint? q signal = endpoint? p signal := by
      have hgeneric := h.string? (genericKey "endpoint") (genericKey_ne (by decide) (by decide) (by decide))
      simp only [endpoint?, h.string? _ (signalKey_ne_genericKey signal "endpoint" (by decide)), hgeneric]
    simp only [options_eq, hheaders, hown, hendpoint]
    refine ⟨fun f hf => ?_, fun m n hm hn => ?_, fun headers? f hh hf => ?_⟩
    · rw [hf]
      rfl
    · rw [hm, hn]
      refine congrArg (Except.bind (headers p signal)) (funext fun headers? => ?_)
      cases ho : p.durationMillis? (signalKey signal "timeout") with
      | error f => rfl
      | ok millis =>
        show Except.map _ ((millis.or n).mapM seconds) = Except.map _ ((millis.or m).mapM seconds)
        rw [or_of_set hv ho, or_of_set hv ho]
    · rw [hh, hf]
      rfl

def fiveSeconds : Properties := ⟨.ofList [("otel.exporter.otlp.traces.timeout", some "5s")]⟩

def fiveSecondsAnd (generic : String) : Properties :=
  ⟨fiveSeconds.settings.insert (Key.normalize (genericKey "timeout")) (some generic)⟩

section
variable {option : String}

theorem plain_traces (h : option ∈ optionNames) : (signalKey "traces" option).toList.all Key.plain = true := by
  have hall : ∀ option ∈ optionNames, (signalKey "traces" option).toList.all Key.plain = true := by decide
  exact hall option h

theorem string?_fiveSeconds : fiveSeconds.string? (signalKey "traces" "timeout") = some "5s" := by
  have hk : signalKey "traces" "timeout" = "otel.exporter.otlp.traces.timeout" := by decide
  have hs : fiveSeconds.string? "otel.exporter.otlp.traces.timeout" = some (Text.trimmed "5s") :=
    Properties.string?_of_plain (by decide) (by decide) (by decide)
  have ht : Text.trimmed "5s" = "5s" := by decide
  rw [hk, hs, ht]

theorem unset_fiveSeconds (h : option ∈ optionNames) : fiveSeconds.string? (genericKey option) = none := by
  have hne : ∀ option ∈ optionNames, fiveSeconds.settings.get? (genericKey option) = none := by decide
  exact Properties.string?_of_plain_unset (plain_genericKey option h) (hne option h)

theorem unset_traces (h : option ∈ optionNames) (hne : option ≠ "timeout") :
    fiveSeconds.string? (signalKey "traces" option) = none := by
  have hall : ∀ option ∈ optionNames, option ≠ "timeout" →
      fiveSeconds.settings.get? (signalKey "traces" option) = none := by decide
  exact Properties.string?_of_plain_unset (plain_traces h) (hall option h hne)

end

theorem headers_fiveSeconds : headers fiveSeconds "traces" = .ok .empty := by
  rw [headers, Properties.map, Properties.map, unset_fiveSeconds (by decide), unset_traces (by decide) (by decide)]
  rfl

theorem fallback_fiveSeconds : fiveSeconds.durationMillis? (genericKey "timeout") = .ok none := by
  rw [Properties.durationMillis?, Properties.readWith, unset_fiveSeconds (by decide)]

theorem string?_fiveSecondsAnd {generic : String} (hb : Text.allBlank generic = false) :
    (fiveSecondsAnd generic).string? (genericKey "timeout") = some (Text.trimmed generic) :=
  Properties.string?_of_set (fiveSeconds.settings.get?_insert_self _ _) hb

theorem soon_unreadable : (fiveSecondsAnd "soon").durationMillis? (genericKey "timeout") =
    .error (.configuration (.notDuration "otel.exporter.otlp.timeout" "soon")) := by
  have ht : Text.trimmed "soon" = "soon" := by decide
  have hs := string?_fiveSecondsAnd (by decide : Text.allBlank "soon" = false)
  rw [ht] at hs
  refine Properties.durationMillis?_unspelled hs ?_
  rintro ⟨ds, millis, hs⟩
  have hn : Duration.parse? (Text.lower "soon".toList) = none := by decide +kernel
  rw [Duration.parse?_of_spells hs] at hn
  cases hn

theorem own_shadows_generic_fiveSeconds :
    options ⟨collector.settings.erase (Key.normalize (genericKey "endpoint"))⟩ "traces" = options collector "traces" ∧
      options (fiveSecondsAnd "1500") "traces" = options fiveSeconds "traces" ∧
      options (fiveSecondsAnd "soon") "traces" =
        .error (.configuration (.notDuration "otel.exporter.otlp.timeout" "soon")) := by
  have hread : (fiveSecondsAnd "1500").durationMillis? (genericKey "timeout") = .ok (some 1500) := by
    exact durationMillis?_fifteenHundred (string?_fiveSecondsAnd (by decide))
  have hown : collector.string? (signalKey "traces" "endpoint") = some (Text.trimmed "http://t/") := by
    have hk : signalKey "traces" "endpoint" = "otel.exporter.otlp.traces.endpoint" := by decide
    rw [hk]
    exact Properties.string?_of_plain (by decide) (by decide) (by decide)
  refine ⟨(own_shadows_generic _ _ _).1 (collector.agreeBut_erase _) _ hown, ?_, ?_⟩
  · have h := (own_shadows_generic _ _ _).2 (fiveSeconds.agreeBut_insert _ (some "1500")) "5s" string?_fiveSeconds
    exact h.2.1 _ _ fallback_fiveSeconds hread
  · have h := (own_shadows_generic _ _ _).2 (fiveSeconds.agreeBut_insert _ (some "soon")) "5s" string?_fiveSeconds
    exact h.2.2 _ _ headers_fiveSeconds soon_unreadable

/-- The traces have a timeout of their own in both snapshots, and the answers are not the same: only the generic
timeout differs, and that is a fault. -/
theorem soon_shows : fiveSeconds.AgreeBut (genericKey "timeout") (fiveSecondsAnd "soon") ∧
    fiveSeconds.string? (signalKey "traces" "timeout") = some "5s" ∧
    options (fiveSecondsAnd "soon") "traces" =
      .error (.configuration (.notDuration "otel.exporter.otlp.timeout" "soon")) ∧
    ∃ t, options fiveSeconds "traces" = .ok ⟨none, .empty, some t⟩ ∧ Binary64.Nearest (5000 / 1000) t := by
  refine ⟨fiveSeconds.agreeBut_insert _ _, string?_fiveSeconds, ?_, ?_⟩
  · have hheaders : headers (fiveSecondsAnd "soon") "traces" = .ok .empty :=
      (headers_congr _ (fiveSeconds.agreeBut_insert _ _) (by decide) (by decide)).trans headers_fiveSeconds
    rw [options_eq, hheaders, soon_unreadable]
    rfl
  · have hown : fiveSeconds.durationMillis? (signalKey "traces" "timeout") = .ok (some 5000) := by
      have hp : Duration.parse? (Text.lower "5s".toList) = some ([5], 1000) := by decide +kernel
      rw [Properties.durationMillis?_spelled string?_fiveSeconds (Duration.parse?_eq_some hp), if_pos (by decide)]
      rfl
    have hfits : Fits 5000 := Binary64.lt_overflow (e := 0) (by norm_num) (by decide)
    obtain ⟨t, ht, hn⟩ := seconds_of_fits hfits
    have hendpoint : endpoint? fiveSeconds "traces" = none := by
      rw [endpoint?, unset_traces (by decide) (by decide), unset_fiveSeconds (by decide)]
      rfl
    refine ⟨t, ?_, hn⟩
    rw [options_eq, headers_fiveSeconds, fallback_fiveSeconds, hown, hendpoint]
    show Except.map _ (Option.mapM seconds (some 5000)) = _
    rw [Option.mapM_some, ht]
    rfl

end Otlp

end Telemetry
