import Telemetry.Proofs.Assembly.Attributes

/-! # The name of the service

The resource that the chain is handed names the service in any case. The name is empty just when the list of
attributes has an empty one last and no name is set apart: a blank name that is set apart counts as none, but one that
is listed takes the place of the name that stands in for a missing one. -/

namespace Telemetry

open Assembly

/-- The value of the last entry under a name in the text of a list. -/
def lastListed (text name : String) : Option String :=
  (((Properties.fieldsOf text).map Properties.entryOf).reverse.find? fun e => e.1 = name).map Prod.snd

structure Unnamed (p : Properties) : Prop where
  unset : ∀ text, p.settings.get? (Key.normalize Names.serviceName) = some (some text) → Text.allBlank text = true
  emptied : ∃ text, p.settings.get? (Key.normalize Names.resourceAttributes) = some (some text) ∧
    lastListed text Names.serviceNameAttribute = some ""

theorem Properties.ne_empty_of_string? {p : Properties} {key value : String} (h : p.string? key = some value) :
    value ≠ "" := by
  obtain ⟨text, -, hb, rfl⟩ := string?_eq_some_iff.mp h
  intro he
  have ht : Text.trim text.toList = [] := by simpa [Text.trimmed] using congrArg String.toList he
  have ha : Text.allBlank text = true := List.all_eq_true.mpr (Text.trim_eq_nil_iff.mp ht)
  rw [hb] at ha
  cases ha

section
variable {p : Properties} {listed : OrderedMap String String}

theorem get?_listed_iff {key name value : String} (h : p.map key = .ok listed) : listed.get? name = some value ↔
    ∃ text, p.settings.get? (Key.normalize key) = some (some text) ∧ lastListed text name = some value := by
  by_cases hs : ∃ text, p.settings.get? (Key.normalize key) = some (some text)
  · obtain ⟨text, ht⟩ := hs
    rw [(Properties.map_of_ok ht h).1, OrderedMap.get?_ofList]
    refine ⟨fun hv => ⟨text, ht, hv⟩, ?_⟩
    rintro ⟨text', ht', hv⟩
    cases ht.symm.trans ht'
    exact hv
  · have hn : p.string? key = none := Properties.string?_eq_none_iff.mpr fun text ht => absurd ⟨text, ht⟩ hs
    rw [Properties.map, hn] at h
    cases h
    refine ⟨fun hv => ?_, ?_⟩
    · cases hv
    · rintro ⟨text, ht, -⟩
      exact absurd ⟨text, ht⟩ hs

theorem service_eq_empty_iff (h : p.map Names.resourceAttributes = .ok listed) :
    ((p.string? Names.serviceName).or (listed.get? Names.serviceNameAttribute)).getD Names.defaultServiceName = "" ↔
      Unnamed p := by
  cases hs : p.string? Names.serviceName with
  | some service =>
    refine iff_of_false (Properties.ne_empty_of_string? hs) fun hu => ?_
    rw [Properties.string?_eq_none_iff.mpr hu.unset] at hs
    cases hs
  | none =>
    rw [Option.none_or]
    cases hl : listed.get? Names.serviceNameAttribute with
    | some name =>
      refine ⟨fun he => ⟨Properties.string?_eq_none_iff.mp hs, (get?_listed_iff h).mp (hl.trans (congrArg some he))⟩,
        fun hu => ?_⟩
      cases hl.symm.trans ((get?_listed_iff h).mpr hu.emptied)
      rfl
    | none =>
      refine iff_of_false (by decide) fun hu => ?_
      cases hl.symm.trans ((get?_listed_iff h).mpr hu.emptied)

end

/-- If the listed attributes can be read, the resource that the chain is handed names the service: by the name that is
set apart, or else by the one that is listed last, or else by the name that stands in for them. That name is empty just
when none is set apart and the one that is listed last is. -/
theorem configureResource_names_service {W : Outside} (host : Host W) (chain : List (Link W)) (p : Properties)
    (s : Scene W) {listed : OrderedMap String String} (h : p.map Names.resourceAttributes = .ok listed) :
    ∃ (initial : Resource) (name : String),
      initial.get? Names.serviceNameAttribute = some (.text name) ∧
      name = ((p.string? Names.serviceName).or
        (listed.get? Names.serviceNameAttribute)).getD Names.defaultServiceName ∧
      (name = "" ↔ Unnamed p) ∧
      let customized := fold host .resource p chain (.proper initial) s.own
      ∃ s', run (configureResource host chain p) s = (customized.result.bind (Customized.use "attributes"), s') ∧
        s'.own = customized.own ∧ s'.registry = s.registry.extend customized.added :=
  ⟨_, _, (get?_layers _).trans (if_pos rfl), rfl, service_eq_empty_iff h,
    run_configureResource_ok host chain s (configuredResource_of_ok h)⟩

def twiceBlank : Properties :=
  ⟨.ofList [("otel.service.name", some " "), ("otel.resource.attributes", some "service.name=shop,a=b,service.name= ")]⟩

theorem get?_twiceBlank : twiceBlank.settings.get? (Key.normalize Names.resourceAttributes) =
    some (some "service.name=shop,a=b,service.name= ") := by
  rw [Key.normalize_of_plain (by decide)]
  decide

theorem map_twiceBlank :
    twiceBlank.map Names.resourceAttributes =
      .ok (.ofList [("service.name", "shop"), ("a", "b"), ("service.name", "")]) := by
  rw [Properties.map_of_set get?_twiceBlank, if_neg (by decide)]
  exact congrArg (Except.ok ∘ OrderedMap.ofList) (by decide)

theorem configureResource_names_service_twiceBlank :
    ∃ initial s', run (configureResource Host.tallied [.customizer ()] twiceBlank) { own := (0 : Nat) } =
      (.ok initial, s') ∧ initial.get? Names.serviceNameAttribute = some (.text "") := by
  have hb : twiceBlank.settings.get? (Key.normalize Names.serviceName) = some (some " ") := by
    rw [Key.normalize_of_plain (by decide)]
    decide
  have hu : Unnamed twiceBlank :=
    ⟨fun text ht => by cases hb.symm.trans ht; decide, _, get?_twiceBlank, by decide⟩
  obtain ⟨initial, name, hi, -, hn, s', hr, -⟩ :=
    configureResource_names_service Host.tallied [.customizer ()] twiceBlank { own := (0 : Nat) } map_twiceBlank
  cases hn.mpr hu
  exact ⟨initial, s', hr, hi⟩

/-- So there are settings that can be read and leave the service without a name. -/
theorem service_left_unnamed : ¬ ∀ (p : Properties) (listed : OrderedMap String String) (initial : Resource),
    p.map Names.resourceAttributes = .ok listed → configuredResource p = .ok initial →
    ∃ name, initial.get? Names.serviceNameAttribute = some (.text name) ∧ name ≠ "" := by
  intro h
  obtain ⟨name, hn, hne⟩ := h twiceBlank _ _ map_twiceBlank (configuredResource_of_ok map_twiceBlank)
  have hs : twiceBlank.string? Names.serviceName = none := by
    rw [Properties.string?, Key.normalize_of_plain (by decide)]
    decide
  rw [get?_layers, if_pos rfl, hs] at hn
  cases hn
  exact hne rfl

end Telemetry
