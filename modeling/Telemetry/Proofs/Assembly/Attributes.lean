import Telemetry.Assembly.Resource
import Telemetry.Proofs.Assembly.Repetition
import Telemetry.Proofs.Customizer.Ledger
import Telemetry.Proofs.Properties.Blame
import Telemetry.Proofs.Properties.Lists

/-! # The attributes of the resource

Attributes come in layers: those that every resource has, the name that stands in for a missing service name,
the listed ones, and the service name that is set apart. Each layer wins over those before it. The chain of
resources is handed what comes of them, and nothing if the list cannot be read. -/

namespace Telemetry

open Assembly

/-! ## Attributes with a name -/

theorem Attribute.namedEntries_eq_self : ∀ {es : List (String × Datum)},
    (∀ e ∈ es, e.1 ≠ "" ∧ ∃ text, e.2 = .text text) → namedEntries es = es
  | [], _ => rfl
  | (name, d) :: es, h => by
    obtain ⟨⟨hn, text, rfl⟩, hes⟩ := List.forall_mem_cons.mp h
    have hne : name.isEmpty = false := by simpa using hn
    simp only [namedEntries, hne, Bool.false_eq_true, if_false, named, namedEntries_eq_self hes]

theorem Resource.ofAttributes_entries {m : OrderedMap String Datum}
    (h : ∀ e ∈ m.entries, e.1 ≠ "" ∧ ∃ text, e.2 = .text text) : ofAttributes m.entries = ⟨m⟩ := by
  rw [ofAttributes, Attribute.clean, Attribute.namedEntries_eq_self h, OrderedMap.ofList_entries]

theorem Resource.get?_merge (a b : Resource) (name : String) : (a.merge b).get? name = (b.get? name).or (a.get? name) :=
  OrderedMap.get?_union _ _ _

theorem Resource.get?_unnamed (name : String) : unnamed.get? name =
    if name = Names.serviceNameAttribute then some (.text Names.defaultServiceName) else base.get? name := by
  have hs : (ofAttributes [(Names.serviceNameAttribute, .text Names.defaultServiceName)]).attributes =
      OrderedMap.empty.insert Names.serviceNameAttribute (.text Names.defaultServiceName) := rfl
  rw [unnamed, get?_merge, get?, hs, OrderedMap.get?_insert]
  split
  · rfl
  · rfl

/-! ## The layers -/

def OrderedMap.asTexts (m : OrderedMap String String) : OrderedMap String Datum :=
  .ofList (m.entries.map fun e => (e.1, .text e.2))

theorem OrderedMap.entries_asTexts (m : OrderedMap String String) :
    m.asTexts.entries = m.entries.map fun e => (e.1, Datum.text e.2) := by
  refine entries_ofList ?_
  rw [List.map_map]
  exact m.distinct

theorem OrderedMap.get?_asTexts (m : OrderedMap String String) (name : String) :
    m.asTexts.get? name = (m.get? name).map Datum.text := by
  ext v
  rw [get?_eq_some_iff, entries_asTexts, Option.map_eq_some_iff]
  simp only [get?_eq_some_iff, List.mem_map, Prod.mk.injEq, Prod.exists]
  constructor
  · rintro ⟨name', text, hm, rfl, rfl⟩
    exact ⟨text, hm, rfl⟩
  · rintro ⟨text, hm, rfl⟩
    exact ⟨name, text, hm, rfl, rfl⟩

/-- The service name that is set apart wins over a listed one. -/
def givenAttributes (p : Properties) (listed : OrderedMap String String) : OrderedMap String Datum :=
  match p.string? Names.serviceName with
  | some name => listed.asTexts.insert Names.serviceNameAttribute (.text name)
  | none => listed.asTexts

section
variable {p : Properties} {listed : OrderedMap String String}

theorem get?_givenAttributes (name : String) : (givenAttributes p listed).get? name =
    if name = Names.serviceNameAttribute then ((p.string? Names.serviceName).or (listed.get? name)).map Datum.text
    else (listed.get? name).map Datum.text := by
  unfold givenAttributes
  cases p.string? Names.serviceName with
  | none => rw [OrderedMap.get?_asTexts, Option.none_or, ite_self]
  | some service => rw [OrderedMap.get?_insert, OrderedMap.get?_asTexts, Option.some_or, Option.map_some]

theorem texts_givenAttributes (h : ∀ e ∈ listed.entries, e.1 ≠ "") :
    ∀ e ∈ (givenAttributes p listed).entries, e.1 ≠ "" ∧ ∃ text, e.2 = .text text := by
  rintro ⟨name, v⟩ he
  rw [← OrderedMap.get?_eq_some_iff, get?_givenAttributes] at he
  split at he
  · rename_i hn
    obtain ⟨text, -, rfl⟩ := Option.map_eq_some_iff.mp he
    exact ⟨fun h0 => absurd (hn.symm.trans h0) (by decide), text, rfl⟩
  · obtain ⟨text, ht, rfl⟩ := Option.map_eq_some_iff.mp he
    exact ⟨h _ (listed.get?_eq_some_iff.mp ht), text, rfl⟩

theorem configuredResource_of_ok (h : p.map Names.resourceAttributes = .ok listed) :
    configuredResource p = .ok (Resource.unnamed.merge ⟨givenAttributes p listed⟩) := by
  have hn : ∀ e ∈ listed.entries, e.1 ≠ "" := fun e he => (Properties.mappable_of_map h e he).named.nonempty
  have ha : configuredAttributes p = .ok (givenAttributes p listed) := by
    rw [configuredAttributes, h, givenAttributes]
    cases p.string? Names.serviceName with
    | none => rfl
    | some service => rfl
  rw [configuredResource, ha, ← Resource.ofAttributes_entries (texts_givenAttributes hn)]
  rfl

theorem configuredResource_of_error {f : Fault} (h : p.map Names.resourceAttributes = .error f) :
    configuredResource p = .error f := by
  rw [configuredResource, configuredAttributes, h]
  rfl

theorem get?_layers (name : String) : (Resource.unnamed.merge ⟨givenAttributes p listed⟩).get? name =
    if name = Names.serviceNameAttribute
    then some (.text (((p.string? Names.serviceName).or (listed.get? name)).getD Names.defaultServiceName))
    else ((listed.get? name).map Datum.text).or (Resource.base.get? name) := by
  rw [Resource.get?_merge, Resource.get?_unnamed, Resource.get?, get?_givenAttributes]
  split
  · cases (p.string? Names.serviceName).or (listed.get? name) with
    | none => rfl
    | some text => rfl
  · rfl

theorem mem_keys_layers (name : String) : name ∈ (Resource.unnamed.merge ⟨givenAttributes p listed⟩).attributes.keys ↔
    name ∈ Resource.base.attributes.keys ∨ name = Names.serviceNameAttribute ∨ name ∈ listed.keys := by
  rw [OrderedMap.mem_keys, OrderedMap.mem_keys, OrderedMap.mem_keys]
  show (∃ v, (Resource.unnamed.merge _).get? name = some v) ↔ (∃ v, Resource.base.get? name = some v) ∨ _
  rw [get?_layers]
  split
  · rename_i h
    exact iff_of_true ⟨_, rfl⟩ (.inr (.inl h))
  · rename_i h
    rw [or_iff_right h]
    cases listed.get? name with
    | none => simp
    | some text => simp

end

/-! ## The chain -/

section
variable {W : Outside} (host : Host W) (chain : List (Link W)) {p : Properties} (s : Scene W)

theorem run_check_eq {α : Type} (c : Check W) (r : Except Fault α) :
    ∃ s', run (check c r) s = (r, s') ∧ s'.own = s.own ∧ s'.registry = s.registry :=
  ⟨_, rfl, rfl, rfl⟩

theorem run_configureResource_ok {initial : Resource} (h : configuredResource p = .ok initial) :
    let customized := fold host .resource p chain (.proper initial) s.own
    ∃ s', run (configureResource host chain p) s = (customized.result.bind (Customized.use "attributes"), s') ∧
      s'.own = customized.own ∧ s'.registry = s.registry.extend customized.added := by
  intro customized
  obtain ⟨s₁, hcheck, ho₁, hg₁⟩ := run_check_eq s .attributes (configuredResource p)
  obtain ⟨s₂, hr, ho₂, hg₂⟩ := run_runChain host .resource p chain (.proper initial) s₁
  rw [ho₁] at hr ho₂ hg₂
  rw [hg₁] at hg₂
  rw [configureResource, run_bind_ok (hcheck.trans (congrArg (·, s₁) h))]
  cases hc : customized.result with
  | error f => exact ⟨s₂, run_bind_error (hr.trans (congrArg (·, s₂) hc)) _, ho₂, hg₂⟩
  | ok value =>
    have hb : (Except.ok value).bind (Customized.use "attributes") = value.use "attributes" := rfl
    obtain ⟨s₃, huse, ho₃, hg₃⟩ := run_check_eq s₂ .resource (value.use "attributes")
    rw [run_bind_ok (hr.trans (congrArg (·, s₂) hc)), hb]
    cases hu : value.use "attributes" with
    | error f =>
      rw [hu] at huse
      exact ⟨s₃, run_bind_error huse _, ho₃.trans ho₂, hg₃.trans hg₂⟩
    | ok resource =>
      rw [hu] at huse
      refine ⟨{ s₃ with journal := s₃.journal ++ [.resourceConfigured resource.attributes] }, ?_, ho₃.trans ho₂,
        hg₃.trans hg₂⟩
      rw [run_bind_ok huse, run_bind_ok (run_emit _ s₃), run_pure]

theorem run_configureResource_error {f : Fault} (h : configuredResource p = .error f) :
    run (configureResource host chain p) s = (.error f, { s with turns := s.turns ++ [.checked .attributes (some f)] }) := by
  rw [configureResource, h]
  exact run_bind_error rfl _

end

/-- If the listed attributes can be read, the chain is handed a resource with the names of the base attributes, the
service name and the listed names, each with the value of the last layer that has it, and what comes of the chain is
used as it is. If they cannot, that is the fault, and no link of the chain is asked for anything. -/
theorem configureResource_layers {W : Outside} (host : Host W) (chain : List (Link W)) (p : Properties) (s : Scene W) :
    (∀ listed, p.map Names.resourceAttributes = .ok listed →
      (∀ text, p.settings.get? (Key.normalize Names.resourceAttributes) = some (some text) → ∀ name, listed.get? name =
        (((Properties.fieldsOf text).map Properties.entryOf).reverse.find? fun e => e.1 = name).map Prod.snd) ∧
      ∃ initial : Resource,
        (∀ name, name ∈ initial.attributes.keys ↔
          name ∈ Resource.base.attributes.keys ∨ name = Names.serviceNameAttribute ∨ name ∈ listed.keys) ∧
        initial.get? Names.serviceNameAttribute = some (.text
          (((p.string? Names.serviceName).or (listed.get? Names.serviceNameAttribute)).getD Names.defaultServiceName)) ∧
        (∀ name ≠ Names.serviceNameAttribute, ∀ value, listed.get? name = some value →
          initial.get? name = some (.text value)) ∧
        (∀ name ≠ Names.serviceNameAttribute, name ∉ listed.keys → initial.get? name = Resource.base.get? name) ∧
        let customized := fold host .resource p chain (.proper initial) s.own
        ∃ s', run (configureResource host chain p) s = (customized.result.bind (Customized.use "attributes"), s') ∧
          s'.own = customized.own ∧ s'.registry = s.registry.extend customized.added) ∧
    ∀ f, p.map Names.resourceAttributes = .error f →
      (∃ value, p.string? Names.resourceAttributes = some value ∧
        f = .configuration (.notMap Names.resourceAttributes value)) ∧
      run (configureResource host chain p) s =
        (.error f, { s with turns := s.turns ++ [.checked .attributes (some f)] }) := by
  constructor
  · intro listed h
    refine ⟨fun text ht name => ?_, _, mem_keys_layers (p := p), ?_, fun name hn value hv => ?_, fun name hn hl => ?_,
      run_configureResource_ok host chain s (configuredResource_of_ok h)⟩
    · rw [(Properties.map_of_ok ht h).1, OrderedMap.get?_ofList]
    · rw [get?_layers, if_pos rfl]
    · rw [get?_layers, if_neg hn, hv]
      rfl
    · have hv : listed.get? name = none := Option.eq_none_iff_forall_ne_some.mpr fun value hv =>
        hl (OrderedMap.mem_keys.mpr ⟨value, hv⟩)
      rw [get?_layers, if_neg hn, hv]
      rfl
  · exact fun f h => ⟨Properties.notMap_of_error h, run_configureResource_error host chain s (configuredResource_of_error h)⟩

def shop : Properties :=
  ⟨.ofList [("otel.resource.attributes", some "service.name=shop,telemetry.sdk.name=mine")]⟩

def nameless : Properties := ⟨.ofList [("otel.resource.attributes", some "team")]⟩

theorem configureResource_layers_shop :
    (∃ initial s', run (configureResource Host.tallied [.customizer ()] shop) { own := (0 : Nat) } = (.ok initial, s') ∧
      initial.get? "service.name" = some (.text "shop") ∧ initial.get? "telemetry.sdk.name" = some (.text "mine") ∧
      initial.get? "telemetry.sdk.language" = some (.text "python")) ∧
    ∃ f s', run (configureResource Host.tallied [.customizer ()] nameless) { own := (0 : Nat) } = (.error f, s') ∧
      s'.turns = [.checked .attributes (some f)] ∧
      f = .configuration (.notMap Names.resourceAttributes "team") := by
  have hlisted : shop.map Names.resourceAttributes =
      .ok (.ofList [("service.name", "shop"), ("telemetry.sdk.name", "mine")]) := by
    refine Properties.map_of_written ?_ (by decide)
    rw [Key.normalize_of_plain (by decide)]
    decide
  have hunset : shop.string? Names.serviceName = none := Properties.string?_of_plain_unset (by decide) (by decide)
  have hset : nameless.settings.get? (Key.normalize Names.resourceAttributes) = some (some "team") := by
    rw [Key.normalize_of_plain (by decide)]
    decide
  have hfails : nameless.map Names.resourceAttributes =
      .error (.configuration (.notMap Names.resourceAttributes "team")) := by
    rw [Properties.map_of_set hset, if_pos (by decide)]
    rfl
  obtain ⟨-, initial, -, hservice, hvalue, hbase, s', hr, -⟩ :=
    (configureResource_layers Host.tallied [.customizer ()] shop { own := (0 : Nat) }).1 _ hlisted
  refine ⟨⟨initial, s', hr, ?_, ?_, ?_⟩, ?_⟩
  · rw [hunset] at hservice
    exact hservice
  · exact hvalue _ (by decide) "mine" (by decide)
  · exact (hbase _ (by decide) (by decide)).trans rfl
  · obtain ⟨-, hr⟩ := (configureResource_layers Host.tallied [.customizer ()] nameless { own := (0 : Nat) }).2 _ hfails
    exact ⟨_, _, hr, rfl, rfl⟩

end Telemetry
