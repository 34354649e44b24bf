import Telemetry.Properties.Reading
import Telemetry.Proofs.Distinct
import Telemetry.Proofs.Properties.Key

/-! # Sources in layers

Settings pass through several maps before they are read, and their keys are made normal each time.
What comes of it is one map, written in a single pass over all sources: a key stands where it first
came, with the value that came last. -/

namespace Telemetry

namespace Source

def normalEntries (s : Source) : List (String × Option String) :=
  s.entries.map fun e => (Key.normalize e.1, e.2)

def value? (s : Source) (key : String) : Option (Option String) :=
  (s.normalEntries.reverse.find? fun e => e.1 = key).map Prod.snd

theorem writeOver_eq (m s : Source) : writeOver m s = m.insertAll s.normalEntries := by
  unfold writeOver OrderedMap.insertAll normalEntries
  rw [List.foldl_map]

theorem layer_append (sources : List Source) (s : Source) :
    layer (sources ++ [s]) = (layer sources).insertAll s.normalEntries := by
  rw [layer, List.foldl_append, List.foldl_cons, List.foldl_nil, writeOver_eq]
  rfl

theorem layer_eq (sources : List Source) : layer sources = .ofList (sources.flatMap normalEntries) := by
  induction sources using List.reverseRecOn with
  | nil => rfl
  | append_singleton sources s ih =>
    rw [layer_append, ih, List.flatMap_append, List.flatMap_singleton, OrderedMap.ofList,
      ← OrderedMap.insertAll_append]
    rfl

theorem normalEntries_layer (sources : List Source) : (layer sources).normalEntries = (layer sources).entries := by
  have hk : ∀ k ∈ (layer sources).keys, Key.normalize k = k := by
    intro k hk
    rw [layer_eq, OrderedMap.keys_ofList, List.mem_eraseDups] at hk
    obtain ⟨e, he, rfl⟩ := List.mem_map.mp hk
    obtain ⟨s, -, he⟩ := List.mem_flatMap.mp he
    obtain ⟨d, -, rfl⟩ := List.mem_map.mp he
    exact Key.normalize_normalize d.1
  unfold normalEntries
  rw [List.map_congr_left fun e he => ?_, List.map_id']
  rw [hk e.1 (List.mem_map_of_mem he)]

theorem layer_layer (sources more : List Source) : layer (layer sources :: more) = layer (sources ++ more) := by
  rw [layer_eq (layer sources :: more), List.flatMap_cons, normalEntries_layer, OrderedMap.ofList,
    OrderedMap.insertAll_append]
  have h : OrderedMap.ofList (layer sources).entries = layer sources := OrderedMap.ofList_entries _
  rw [show OrderedMap.empty.insertAll (layer sources).entries = layer sources from h, layer_eq (sources ++ more),
    List.flatMap_append, layer_eq sources]
  exact (OrderedMap.insertAll_append ..).symm

theorem get?_layer (sources : List Source) (key : String) :
    (layer sources).get? key = sources.reverse.findSome? (·.value? key) := by
  rw [layer_eq, OrderedMap.get?_ofList, List.reverse_flatMap, List.find?_flatMap, List.map_findSome?]
  rfl

end Source

namespace Properties

theorem settings_create (suppliers : List Source) (environment process : Source) :
    (create (.layer suppliers) environment process).settings = .layer (suppliers ++ [environment, process]) := by
  unfold create ofSource
  rw [Source.layer_layer, List.append_nil, Source.layer_layer]

/-! ## Reading -/

section
variable {p q : Properties} {key : String}

theorem string?_congr (h : p.settings.get? (Key.normalize key) = q.settings.get? (Key.normalize key)) :
    p.string? key = q.string? key := by
  rw [string?, string?, h]

theorem string?_eq_some_iff {value : String} : p.string? key = some value ↔
    ∃ text, p.settings.get? (Key.normalize key) = some (some text) ∧ Text.allBlank text = false ∧
      value = Text.trimmed text := by
  rw [string?]
  cases p.settings.get? (Key.normalize key) with
  | none => exact iff_of_false nofun nofun
  | some text? =>
    cases text? with
    | none => exact iff_of_false nofun nofun
    | some text =>
      simp only [Option.some_inj, exists_eq_left']
      cases Text.allBlank text with
      | true => exact iff_of_false nofun nofun
      | false => simp [eq_comm]

theorem string?_eq_none_iff : p.string? key = none ↔
    ∀ text, p.settings.get? (Key.normalize key) = some (some text) → Text.allBlank text = true := by
  rw [Option.eq_none_iff_forall_ne_some]
  constructor
  · intro h text ht
    by_contra hb
    exact h _ (string?_eq_some_iff.mpr ⟨text, ht, Bool.eq_false_iff.mpr hb, rfl⟩)
  · intro h value hv
    obtain ⟨text, ht, hb, -⟩ := string?_eq_some_iff.mp hv
    rw [h text ht] at hb
    cases hb

theorem string?_of_plain {text : String} (hk : key.toList.all Key.plain = true)
    (h : p.settings.get? key = some (some text)) (hb : Text.allBlank text = false) :
    p.string? key = some (Text.trimmed text) := by
  rw [string?, Key.normalize_of_plain hk, h]
  simp [hb]

theorem string?_of_plain_unset (hk : key.toList.all Key.plain = true) (h : p.settings.get? key = none) :
    p.string? key = none := by
  rw [string?, Key.normalize_of_plain hk, h]

theorem read_congr (h : p.string? key = q.string? key) (kind : Reading) (default : Option Datum) :
    p.read kind key default = q.read kind key default := by
  cases kind with
  | text => simp only [read, h]
  | truth => simp only [read, bool?, h]
  | whole => simp only [read, int?, readWith, h]
  | real => simp only [read, float?, readWith, h]
  | duration => simp only [read, durationMillis?, readWith, h]
  | list => simp only [read, list?, h]
  | map => simp only [read, map, h]

end

def single (key : String) (value? : Option (Option String)) : Properties :=
  ⟨.ofList (value?.toList.map fun value => (key, value))⟩

theorem get?_single (key : String) (value? : Option (Option String)) :
    (single key value?).settings.get? key = value? := by
  cases value? with
  | none => rfl
  | some value => exact OrderedMap.get?_insert_self .empty key value

/-- A snapshot is one pass over everything that suppliers, environment and process set: a key stands
where it first came, with the value that came last, be it blank or nothing. Every spelling of a key
reads that value, as if nothing else were set. -/
theorem create_last_wins (suppliers : List Source) (environment process : Source) :
    let p := create (.layer suppliers) environment process
    let sources := suppliers ++ [environment, process]
    let entries := sources.flatMap Source.normalEntries
    p.settings = .ofList entries ∧
      p.settings.keys = (entries.map Prod.fst).eraseDups ∧
      (∀ k, p.settings.get? k = sources.reverse.findSome? (·.value? k)) ∧
      ∀ key, let value? := p.settings.get? (Key.normalize key)
        p.contains key = value?.isSome ∧
        p.string? key = (value?.join.filter (!Text.allBlank ·)).map Text.trimmed ∧
        ∀ kind default, p.read kind key default = (single (Key.normalize key) value?).read kind key default := by
  intro p sources entries
  have hs : p.settings = .layer sources := settings_create suppliers environment process
  have hl : p.settings = .ofList entries := hs.trans (Source.layer_eq sources)
  refine ⟨hl, ?_, fun k => ?_, fun key => ⟨?_, ?_, fun kind default => ?_⟩⟩
  · rw [hl, OrderedMap.keys_ofList]
  · rw [hs, Source.get?_layer]
  · exact OrderedMap.contains_eq _ _
  · unfold string?
    cases p.settings.get? (Key.normalize key) with
    | none => rfl
    | some value =>
      cases value with
      | none => rfl
      | some text =>
        by_cases hb : Text.allBlank text = true
        · simp [Option.filter, hb]
        · simp [Option.filter, hb]
  · exact read_congr (string?_congr (get?_single _ _).symm) kind default

end Properties

end Telemetry
