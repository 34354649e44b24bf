import Telemetry.Exporter.Otlp
import Telemetry.Proofs.Number.Nearest
import Telemetry.Proofs.Properties.Lists

/-! # OTLP options

The options of a signal's exporter, field by field: its own endpoint or the signal's path below the generic
one, the headers merged name by name, and its own timeout or the generic one in seconds. -/

namespace Telemetry.Otlp

/-! ## Endpoints -/

inductive EndpointOf (p : Properties) (signal : String) : Option String → Prop
  | own {endpoint : String} (h : p.string? (signalKey signal "endpoint") = some endpoint) :
      EndpointOf p signal (some endpoint)
  | generic {bare : String} {slashes : Nat} (hn : p.string? (signalKey signal "endpoint") = none)
      (h : p.string? (genericKey "endpoint") = some (bare ++ String.ofList (List.replicate slashes '/')))
      (hb : bare.toList.getLast? ≠ some '/') : EndpointOf p signal (some (bare ++ "/v1/" ++ signal))
  | unset (hn : p.string? (signalKey signal "endpoint") = none) (h : p.string? (genericKey "endpoint") = none) :
      EndpointOf p signal none

theorem withoutSlashes_eq (s : String) : withoutSlashes s = String.ofList (s.toList.rdropWhile (· == '/')) := rfl

theorem withoutSlashes_spec (s : String) : (withoutSlashes s).toList.getLast? ≠ some '/' ∧
    ∃ slashes, s = withoutSlashes s ++ String.ofList (List.replicate slashes '/') := by
  rw [withoutSlashes_eq, String.toList_ofList]
  constructor
  · intro h
    obtain ⟨hn, he⟩ := List.mem_getLast?_eq_getLast h
    exact absurd he.symm (by simpa using List.rdropWhile_last_not _ _ hn)
  · refine ⟨(s.toList.rtakeWhile (· == '/')).length, ?_⟩
    have hs : ∀ c ∈ s.toList.rtakeWhile (· == '/'), c = '/' := fun c hc => by simpa using List.mem_rtakeWhile_imp hc
    rw [← List.eq_replicate_of_mem hs, ← String.ofList_append, List.rdropWhile_append_rtakeWhile, String.ofList_toList]

theorem endpointOf (p : Properties) (signal : String) : EndpointOf p signal (endpoint? p signal) := by
  unfold endpoint?
  cases hs : p.string? (signalKey signal "endpoint") with
  | some own => exact .own hs
  | none =>
    cases hg : p.string? (genericKey "endpoint") with
    | none => exact .unset hs hg
    | some base =>
      obtain ⟨hb, slashes, he⟩ := withoutSlashes_spec base
      exact .generic hs (he ▸ hg) hb

/-! ## Timeouts -/

inductive SecondsOf : Option Int → Option Binary64 → Prop
  | unset : SecondsOf none none
  | set {millis : Int} {t : Binary64} (h : Binary64.Nearest (millis / 1000) t) : SecondsOf (some millis) (some t)

def Fits (millis : Int) : Prop := |(millis : ℚ) / 1000| < Binary64.overflow

theorem seconds_of_fits {millis : Int} (h : Fits millis) :
    ∃ t, seconds millis = .ok t ∧ Binary64.Nearest (millis / 1000) t := by
  have hn := (Binary64.ofRatio_nearest millis (by decide : 0 < 1000)).1
  rw [Nat.cast_ofNat] at hn
  refine ⟨_, ?_, hn h⟩
  simp only [seconds, (hn h).isInfinite, Bool.false_eq_true, if_false]

theorem seconds_of_not_fits {millis : Int} (h : ¬ Fits millis) : seconds millis = .error (.overflow .quotient) := by
  have hi := (Binary64.ofRatio_nearest millis (by decide : 0 < 1000)).2
  rw [Nat.cast_ofNat] at hi
  simp only [seconds, hi (not_lt.mp h), Binary64.isInfinite, if_true]

theorem mapM_seconds {millis? : Option Int} (h : ∀ millis, millis? = some millis → Fits millis) :
    ∃ t?, (millis?.mapM seconds : Except Fault (Option Binary64)) = .ok t? ∧ SecondsOf millis? t? := by
  cases millis? with
  | none => exact ⟨none, rfl, .unset⟩
  | some millis =>
    obtain ⟨t, ht, hn⟩ := seconds_of_fits (h millis rfl)
    refine ⟨some t, ?_, .set hn⟩
    rw [Option.mapM_some, ht]
    rfl

/-! ## Options -/

def optionNames : List String := ["endpoint", "headers", "timeout"]

def keysOf (signal : String) : List String :=
  optionNames.flatMap fun option => [genericKey option, signalKey signal option]

theorem options_congr {p q : Properties} {signal : String} (h : ∀ key ∈ keysOf signal, q.string? key = p.string? key) :
    options q signal = options p signal := by
  simp only [keysOf, optionNames, List.flatMap_cons, List.flatMap_nil, List.append_nil, List.cons_append, List.nil_append,
    List.forall_mem_cons] at h
  obtain ⟨hge, hse, hgh, hsh, hgt, hst, -⟩ := h
  simp only [options, endpoint?, Properties.map, Properties.durationMillis?, Properties.readWith, hge, hse, hgh, hsh,
    hgt, hst]

def headers (p : Properties) (signal : String) : Except Fault (OrderedMap String String) :=
  (p.map (genericKey "headers")).bind fun generic => (p.map (signalKey signal "headers")).map generic.union

theorem options_eq (p : Properties) (signal : String) : options p signal =
    (headers p signal).bind fun headers =>
      (p.durationMillis? (genericKey "timeout")).bind fun fallback =>
        (p.durationMillis? (signalKey signal "timeout")).bind fun millis =>
          ((millis.or fallback).mapM seconds).map fun t? => ⟨endpoint? p signal, headers, t?⟩ := by
  rw [options, headers]
  cases p.map (genericKey "headers") with
  | error f => rfl
  | ok generic =>
    cases p.map (signalKey signal "headers") with
    | error f => rfl
    | ok own => rfl

theorem toDatum_eq (o : Options) : o.toDatum = .map
    ((o.endpoint.toList.map fun e => ("endpoint", Datum.text e)) ++
    (if o.headers.keys = [] then [] else [("headers", .map (o.headers.entries.map fun e => (e.1, .text e.2)))]) ++
    o.timeoutSeconds.toList.map fun t => ("timeout", .float t)) := by
  have hh : o.headers.isEmpty = true ↔ o.headers.keys = [] := by rw [OrderedMap.isEmpty_eq_keys, List.isEmpty_iff]
  obtain ⟨endpoint, headers, timeout⟩ := o
  simp only [Options.toDatum, hh]
  cases endpoint with
  | none => cases timeout with
    | none => rfl
    | some t => rfl
  | some e => cases timeout with
    | none => rfl
    | some t => rfl

/-- What the options of a signal say, if every setting can be read and the timeout can be divided; that it cannot be
divided is the only fault left. They depend on no setting of another signal. -/
theorem options_by_field (p : Properties) (signal : String) :
    (∀ generic own fallback millis,
      p.map (genericKey "headers") = .ok generic → p.map (signalKey signal "headers") = .ok own →
      p.durationMillis? (genericKey "timeout") = .ok fallback →
      p.durationMillis? (signalKey signal "timeout") = .ok millis →
      ((∀ m, millis.or fallback = some m → Fits m) →
        ∃ (endpoint : Option String) (headers : OrderedMap String String) (timeout : Option Binary64),
          EndpointOf p signal endpoint ∧
          headers.keys = generic.keys ++ own.keys.filter (· ∉ generic.keys) ∧
          (∀ name, headers.get? name = (own.get? name).or (generic.get? name)) ∧
          SecondsOf (millis.or fallback) timeout ∧
          (options p signal).map Options.toDatum = .ok (.map
            ((endpoint.toList.map fun e => ("endpoint", Datum.text e)) ++
            (if headers.keys = [] then [] else [("headers", .map (headers.entries.map fun e => (e.1, .text e.2)))]) ++
            timeout.toList.map fun t => ("timeout", .float t)))) ∧
      ∀ m, millis.or fallback = some m → ¬ Fits m → options p signal = .error (.overflow .quotient)) ∧
    ∀ q : Properties,
      (∀ key ∈ keysOf signal, q.settings.get? (Key.normalize key) = p.settings.get? (Key.normalize key)) →
      options q signal = options p signal := by
  constructor
  · intro generic own fallback millis hg ho hf hm
    have hread : options p signal = ((millis.or fallback).mapM seconds).map fun t? =>
        ⟨endpoint? p signal, generic.union own, t?⟩ := by
      rw [options_eq, headers, hg, ho, hf, hm]
      rfl
    rw [hread]
    constructor
    · intro hfits
      obtain ⟨t?, ht, hs⟩ := mapM_seconds hfits
      rw [ht]
      exact ⟨_, generic.union own, t?, endpointOf p signal, OrderedMap.keys_union _ _, OrderedMap.get?_union _ _, hs,
        congrArg Except.ok (toDatum_eq _)⟩
    · intro m hor hfits
      rw [hor, Option.mapM_some, seconds_of_not_fits hfits]
      rfl
  · exact fun q h => options_congr fun key hk => Properties.string?_congr (h key hk)

def collector : Properties :=
  ⟨.ofList [("otel.exporter.otlp.endpoint", some "http://c//"), ("otel.exporter.otlp.headers", some "team=a,tier=b"),
    ("otel.exporter.otlp.timeout", some "1500"), ("otel.exporter.otlp.logs.headers", some "zone=d,tier=c"),
    ("otel.exporter.otlp.traces.endpoint", some "http://t/")]⟩

theorem durationMillis?_fifteenHundred {p : Properties} {key : String}
    (h : p.string? key = some (Text.trimmed "1500")) : p.durationMillis? key = .ok (some 1500) := by
  have hp : Duration.parse? (Text.lower (Text.trimmed "1500").toList) = some ([1, 5, 0, 0], 1) := by decide +kernel
  rw [Properties.durationMillis?_spelled h (Duration.parse?_eq_some hp), if_pos (by decide)]
  rfl

theorem options_by_field_collector :
    (∃ (endpoint : Option String) (headers : OrderedMap String String) (timeout : Option Binary64),
      EndpointOf collector "logs" endpoint ∧ headers.keys = ["team", "tier", "zone"] ∧
      headers.get? "tier" = some "c" ∧ SecondsOf (some 1500) timeout ∧
      (options collector "logs").map Options.toDatum = .ok (.map
        ((endpoint.toList.map fun e => ("endpoint", Datum.text e)) ++
        [("headers", .map (headers.entries.map fun e => (e.1, .text e.2)))] ++
        timeout.toList.map fun t => ("timeout", .float t)))) ∧
    ∀ value, options ⟨collector.settings.insert "otel.exporter.otlp.traces.endpoint" value⟩ "logs" =
      options collector "logs" := by
  obtain ⟨hfields, halike⟩ := options_by_field collector "logs"
  have hgeneric : collector.map (genericKey "headers") = .ok (.ofList [("team", "a"), ("tier", "b")]) := by
    have hk : genericKey "headers" = "otel.exporter.otlp.headers" := by decide
    refine Properties.map_of_written ?_ (by decide)
    rw [hk, Key.normalize_of_plain (by decide)]
    decide
  have hown : collector.map (signalKey "logs" "headers") = .ok (.ofList [("zone", "d"), ("tier", "c")]) := by
    have hk : signalKey "logs" "headers" = "otel.exporter.otlp.logs.headers" := by decide
    refine Properties.map_of_written ?_ (by decide)
    rw [hk, Key.normalize_of_plain (by decide)]
    decide
  have hfallback : collector.durationMillis? (genericKey "timeout") = .ok (some 1500) := by
    have hk : genericKey "timeout" = "otel.exporter.otlp.timeout" := by decide
    rw [hk]
    exact durationMillis?_fifteenHundred (Properties.string?_of_plain (by decide) (by decide) (by decide))
  have hunset : collector.durationMillis? (signalKey "logs" "timeout") = .ok none := by
    have hk : signalKey "logs" "timeout" = "otel.exporter.otlp.logs.timeout" := by decide
    rw [hk, Properties.durationMillis?, Properties.readWith,
      Properties.string?_of_plain_unset (by decide) (by decide)]
  have hfits : ∀ m, (none : Option Int).or (some 1500) = some m → Fits m := by
    rintro m ⟨⟩
    exact Binary64.lt_overflow (e := 0) (by norm_num) (by decide)
  constructor
  · obtain ⟨endpoint, headers, timeout, he, hk, hg, hs, ho⟩ :=
      (hfields _ _ _ _ hgeneric hown hfallback hunset).1 hfits
    have hk : headers.keys = ["team", "tier", "zone"] := hk.trans (by decide)
    refine ⟨endpoint, headers, timeout, he, hk, (hg "tier").trans (by decide), hs, ?_⟩
    rw [ho, hk]
    rfl
  · intro value
    have hplain : ∀ key ∈ keysOf "logs", key.toList.all Key.plain = true := by decide
    have hne : ∀ key ∈ keysOf "logs", key ≠ "otel.exporter.otlp.traces.endpoint" := by decide
    refine halike _ fun key hk => OrderedMap.get?_insert_of_ne _ ?_ _
    rw [Key.normalize_of_plain (hplain key hk)]
    exact hne key hk

end Telemetry.Otlp
