import Telemetry.Proofs.Assembly.Builtin
import Telemetry.Proofs.Assembly.Choice
import Telemetry.Proofs.Properties.Lists

/-! # Selecting nothing

Nothing is selected if the setting says `none`, and if it says nothing while `none` is the default. But a setting of
commas without a name between them selects nothing either, whatever the default is. -/

namespace Telemetry

open Text Assembly

namespace Properties

/-- Why a setting of names selects nothing. -/
inductive Silent (p : Properties) (key : String) (default : List String) : Prop
  | asked {text : String} : p.settings.get? (Key.normalize key) = some (some text) → fieldsOf text ≠ [] →
    (∀ field ∈ fieldsOf text, String.ofList (trim field) = Names.none) → Silent p key default
  | unset : (∀ text, p.settings.get? (Key.normalize key) = some (some text) → allBlank text = true) →
    (∀ name ∈ default, name = Names.none) → Silent p key default
  | separators {text : String} : p.settings.get? (Key.normalize key) = some (some text) → ',' ∈ text.toList →
    (∀ c ∈ text.toList, c = ',' ∨ isBlank c = true) → Silent p key default

section
variable {p : Properties} {key : String} {default : List String}

theorem silent_iff : Silent p key default ↔ ∀ name ∈ (p.list? key).getD default, name = Names.none := by
  constructor
  · intro h
    cases h with
    | @asked text ht hne hf =>
      have hb : allBlank text = false := by
        rw [Bool.eq_false_iff]
        intro hb
        exact hne (fieldsOf_eq_nil_iff.mpr fun c hc => .inr (List.all_eq_true.mp hb c hc))
      rw [list?_of_set ht hb, Option.getD_some, List.forall_mem_map]
      exact hf
    | unset hu hd =>
      rw [list?, string?_eq_none_iff.mpr hu]
      exact hd
    | @separators text ht hm hc =>
      have hb : allBlank text = false := List.all_eq_false.mpr ⟨',', hm, by decide⟩
      rw [list?_of_set ht hb, fieldsOf_eq_nil_iff.mpr hc]
      exact fun name hm => absurd hm List.not_mem_nil
  · intro h
    cases hs : p.string? key with
    | none =>
      rw [list?, hs] at h
      exact .unset (string?_eq_none_iff.mp hs) h
    | some value =>
      obtain ⟨text, ht, hb, -⟩ := string?_eq_some_iff.mp hs
      rw [list?_of_set ht hb, Option.getD_some, List.forall_mem_map] at h
      by_cases hf : fieldsOf text = []
      · have hc := fieldsOf_eq_nil_iff.mp hf
        obtain ⟨c, hm, hblank⟩ := List.all_eq_false.mp hb
        have hcomma : c = ',' := (hc c hm).resolve_right hblank
        exact .separators ht (hcomma ▸ hm) hc
      · exact .asked ht hf h

theorem names_eq_nil_iff (noun : String) : Selection.names p key noun default = .ok [] ↔ Silent p key default := by
  rw [silent_iff]
  unfold Selection.names
  generalize (p.list? key).getD default = listed
  simp only
  by_cases hn : Names.none ∈ listed.eraseDups
  · rw [if_pos (List.contains_iff_mem.mpr hn)]
    rcases ExporterCatalogue.alone_or_mixed (nodup_eraseDups listed) hn with ha | ⟨hlen, name, hm, hne⟩
    · rw [if_neg (by rw [ha]; decide)]
      exact iff_of_true rfl fun name hm => List.mem_singleton.mp (ha ▸ List.mem_eraseDups.mpr hm)
    · rw [if_pos hlen]
      exact iff_of_false nofun fun h => hne (h name (List.mem_eraseDups.mp hm))
  · rw [if_neg fun hc => hn (List.contains_iff_mem.mp hc), Except.ok.injEq]
    constructor
    · intro he name hm
      rw [← List.mem_eraseDups, he] at hm
      cases hm
    · intro h
      refine List.eq_nil_iff_forall_not_mem.mpr fun name hm => hn ?_
      exact h name (List.mem_eraseDups.mp hm) ▸ hm

end

end Properties

/-! ## Selections -/

section
variable {W : Outside} {host : Host W} {loader : W.Loader}

theorem Offering.Succeeds.length {γ : Type} {o : Offering W} {native : String → List (Turn W) → Except Fault γ → Prop}
    {foreign : String → W.Plugin → List (Turn W) → Except Fault γ → Prop} {known : Option (Selection.Table W)}
    {names : List String} {ts : List (Turn W)} {made : List γ} {fault : Option Fault}
    (h : o.Succeeds host loader native foreign known names ts made fault) (hf : fault = none) :
    made.length = names.length := by
  induction h with
  | done => rfl
  | next _ _ _ ih => rw [List.length_cons, List.length_cons, ih hf]
  | stop => cases hf
  | load _ _ _ ih => exact ih hf
  | refused => cases hf

theorem exporters_eq_nil_iff (signal : Signal) (p : Properties) (s : Scene W) :
    let catalogue := exporterCatalogue W signal
    (run (configureExporters host loader catalogue p) s).1.map OrderedMap.entries = .ok [] ↔
      p.Silent catalogue.key [catalogue.default] := by
  intro catalogue
  rw [← Properties.names_eq_nil_iff "exporters"]
  obtain ⟨ts, r, s', hr, -, h⟩ := ExporterCatalogue.proceeds_configureExporters host loader catalogue p s
  rw [hr]
  rcases h with ⟨f, hn, -, rfl⟩ | ⟨names, us, made, fault, hn, -, rfl, hs⟩
  · rw [hn]
    exact iff_of_false nofun nofun
  · rw [hn, Except.ok.injEq]
    rcases hs.ended with ⟨rfl, rfl⟩ | ⟨f, name, rest, rfl, rfl, -⟩
    · refine ⟨fun h => ?_, fun h => ?_⟩
      · have hkeys : (OrderedMap.ofList made).keys = [] := congrArg (List.map Prod.fst) (Except.ok.inj h)
        refine List.eq_nil_iff_forall_not_mem.mpr fun name hm => ?_
        rw [← List.mem_eraseDups, ← OrderedMap.keys_ofList, hkeys] at hm
        cases hm
      · rw [List.map_eq_nil_iff.mp h]
        rfl
    · exact iff_of_false nofun (List.append_ne_nil_of_right_ne_nil _ (List.cons_ne_nil _ _))

theorem propagators_eq_nil_iff (chain : List (Link W)) (p : Properties) (s : Scene W) :
    (run (configurePropagators host loader chain p) s).1 = .ok [] ↔
      p.Silent Names.propagators Names.defaultPropagators := by
  rw [← Properties.names_eq_nil_iff "propagators"]
  obtain ⟨ts, r, s', hr, -, h⟩ := (Segment.proceeds_configurePropagators chain p loader : Proceeds host _ _) s
  rw [hr]
  rcases h with ⟨f, hn, -, rfl⟩ | ⟨names, us, made, fault, hn, -, rfl, hs⟩
  · rw [hn]
    exact iff_of_false nofun nofun
  · rw [hn, Except.ok.injEq]
    cases fault with
    | none =>
      have hlen := hs.length rfl
      refine ⟨fun h => ?_, fun h => ?_⟩
      · rw [List.map_eq_nil_iff.mp (Except.ok.inj h)] at hlen
        exact List.eq_nil_of_length_eq_zero hlen.symm
      · rw [h] at hlen
        rw [List.eq_nil_of_length_eq_zero hlen]
        rfl
    | some f =>
      refine iff_of_false nofun ?_
      rintro rfl
      cases hs

/-- Exporters are selected from the setting of a signal, and propagators from another one. Either selection comes out
empty, and does not fail, just when its setting is silent. -/
theorem selects_nothing_iff_silent (host : Host W) (loader : W.Loader) (p : Properties) (s : Scene W) :
    (∀ signal,
      let catalogue := exporterCatalogue W signal
      (run (configureExporters host loader catalogue p) s).1.map OrderedMap.entries = .ok [] ↔
        p.Silent catalogue.key [catalogue.default]) ∧
    ∀ chain, (run (configurePropagators host loader chain p) s).1 = .ok [] ↔
      p.Silent Names.propagators Names.defaultPropagators :=
  ⟨fun signal => exporters_eq_nil_iff signal p s, fun chain => propagators_eq_nil_iff chain p s⟩

end

/-- A comma stands for no name, neither for `none` nor for the default, and nothing is selected. -/
theorem comma_selects_nothing :
    let p := Properties.ofSource (.ofList [(Names.tracesExporter, some ","), (Names.propagators, some ",")])
    let s : Scene .void := { own := () }
    p.list? Names.tracesExporter = some [] ∧ p.list? Names.propagators = some [] ∧
      ((run (configureExporters Host.void () (exporterCatalogue .void .traces) p) s).1.map OrderedMap.keys).toOption = some [] ∧
      ((run (configurePropagators Host.void () [] p) s).1.map List.length).toOption = some 0 := by
  decide +kernel

end Telemetry
