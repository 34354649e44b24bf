import Telemetry.Proofs.Assembly.Components

/-! # The stages of an assembly

Each stage of an assembly takes its own part of the course. -/

namespace Telemetry

open Assembly
open Plan (along each take)

section
variable {W : Outside} (host : Host W)

/-! ## Exporters -/

section
variable (signal : Signal) (p : Properties)

theorem exporters_builtin (name : String) :
    (Offering.exporters signal : Offering W).builtin.contains name =
      (builtinExporter? (ε := W.Exporter) signal name).isSome := by
  unfold builtinExporter? Offering.exporters
  split
  · simp_all
  · split <;> simp_all

def nativeExporter (name : String) : Assembly W (String × Exporter W.Exporter) := do
  let key := (exporterCatalogue W signal).key
  let e ← check (.builtin key name) <| match builtinExporter? signal name with
    | some make => make p
    | none => .error (.configuration (.unrecognized key name))
  emit (.exporterConfigured key name)
  return (name, e)

def foreignExporter (name : String) (plugin : W.Plugin) : Assembly W (String × Exporter W.Exporter) := do
  let e ← ask host (.createExporter plugin p) ()
  emit (.exporterConfigured (exporterCatalogue W signal).key name)
  return (name, e)

theorem exporterCatalogue_builtin? : (exporterCatalogue W signal).builtin? = builtinExporter? signal := by
  cases signal <;> rfl

theorem exporterCatalogue_ofPlugin : (exporterCatalogue W signal).ofPlugin = id := by
  cases signal <;> rfl

theorem createExporters_eq (loader : W.Loader) : ∀ (names : List String) (known : Option (Selection.Table W)),
    createExporters host loader (exporterCatalogue W signal) p names known =
      (Offering.exporters signal).creating host loader (nativeExporter signal p)
        (foreignExporter host signal p) names known
  | [], _ => rfl
  | name :: names, known => by
    have ih := createExporters_eq loader names
    have hb := exporters_builtin (W := W) signal name
    rw [createExporters, Offering.creating, exporterCatalogue_builtin?, exporterCatalogue_ofPlugin, hb]
    cases hm : builtinExporter? (ε := W.Exporter) signal name with
    | some make =>
      rw [if_pos Option.isSome_some]
      simp only [nativeExporter, hm, ih, bind_assoc, pure_bind]
    | none =>
      rw [if_neg (by simp)]
      simp only [foreignExporter, ih, bind_assoc, pure_bind]
      rfl

theorem tracks_configureExporters (loader : W.Loader) (s : Scene W) :
    Tracks host (configureExporters host loader (exporterCatalogue W signal) p) s
      ((Offering.exporters signal).selecting host p [] loader s.registry)
      fun m => m.entries.map Prod.fst = (Offering.exporters signal : Offering W).names p := by
  unfold configureExporters Offering.selecting
  refine Tracks.bind (Walks.check _ _) fun names s₁ hn => ?_
  have hn : names = (Offering.exporters signal : Offering W).names p := Selection.names_eq hn
  rw [hn, createExporters_eq]
  refine (Offering.tracks_creating host loader _ _ _ (R := fun name e => name = e.1) ?_ ?_ _ s₁).map ?_
  · intro name s _
    exact (Walks.check _ _).bind fun e s' _ => (Walks.emit _).map fun _ _ => rfl
  · intro name plugin s
    exact (Walks.ask (.createExporter plugin p) ()).bind fun e s' _ => (Walks.emit _).map fun _ _ => rfl
  · intro xs hxs
    have hx := List.forall₂_map_right_iff.mpr hxs
    rw [List.forall₂_eq_eq_eq] at hx
    rw [OrderedMap.entries_ofList, ← hx]
    rw [← hx]
    exact Properties.nodup_configured _ _ _

end

/-! ## Propagators -/

section
variable (chain : List (Link W)) (p : Properties)

theorem propagators_builtin (name : String) :
    (Offering.propagators : Offering W).builtin.contains name = (Propagator.builtin? name).isSome := by
  unfold Propagator.builtin? Offering.propagators
  split <;> simp_all

def nativePropagator (name : String) : Assembly W (Customized W.Thing Propagator) := do
  let made ← check (.builtin Names.propagators name) <| match Propagator.builtin? name with
    | some builtin => .ok builtin
    | none => .error (.configuration (.unrecognized Names.propagators name))
  runChain host .propagator chain p (.proper made)

def foreignPropagator (_ : String) (plugin : W.Plugin) : Assembly W (Customized W.Thing Propagator) := do
  let made ← ask host (.createPropagator plugin p) ()
  runChain host .propagator chain p (.proper made)

theorem createPropagators_eq (loader : W.Loader) : ∀ (names : List String) (known : Option (Selection.Table W)),
    createPropagators host loader chain p names known =
      Offering.propagators.creating host loader (nativePropagator host chain p)
        (foreignPropagator host chain p) names known
  | [], _ => rfl
  | name :: names, known => by
    have ih := createPropagators_eq loader names
    rw [createPropagators, Offering.creating, propagators_builtin]
    cases hm : Propagator.builtin? name with
    | some builtin =>
      rw [if_pos Option.isSome_some]
      simp only [nativePropagator, hm, ih, bind_assoc]
    | none =>
      rw [if_neg (by simp)]
      simp only [foreignPropagator, ih, bind_assoc]
      rfl

theorem tracks_configurePropagators (loader : W.Loader) (s : Scene W) :
    Tracks host (configurePropagators host loader chain p) s
      (Offering.propagators.selecting host p (chain.map fun link => .ask (.apply .propagator link p)) loader
        s.registry)
      fun _ => True := by
  unfold configurePropagators Offering.selecting
  refine Tracks.bind (Walks.check _ _) fun names s₁ hn => ?_
  have hn : names = (Offering.propagators : Offering W).names p := Selection.names_eq hn
  rw [hn, createPropagators_eq, ← Plan.bind_done (Offering.components _ _ _ _ _ _ _)]
  refine (Offering.tracks_creating host loader _ _ _ (R := fun _ _ => True) ?_ ?_ _ s₁).bind ?_
  · intro name s _
    exact (Walks.check _ _).bind fun made s' _ => walks_runChain host .propagator p chain _ s'
  · intro name plugin s
    exact (Walks.ask (.createPropagator plugin p) ()).bind fun made s' _ =>
      walks_runChain host .propagator p chain _ s'
  · intro made s' _
    exact (Walks.emit _).map fun _ _ => trivial

end

/-! ## Plugins and settings -/

theorem run_mergeConfigurers : ∀ (plugins : List W.Plugin) (s : Scene W),
    ∃ s', run (plugins.forM (Discovery.mergeConfigurer host)) s = (.ok (), s') ∧ Leads host s [] s' ∧
      s'.registry = plugins.foldl (fun r plugin => r.add .tracerProvider (.configurer plugin)) s.registry
  | [], s => ⟨s, rfl, .none rfl rfl, rfl⟩
  | plugin :: plugins, s => by
    obtain ⟨s', hr, hl, hg⟩ := run_mergeConfigurers plugins
      { s with
        registry := s.registry.add .tracerProvider (.configurer plugin)
        journal := s.journal ++ [.configurerMerged (host.typeName plugin)] }
    exact ⟨s', hr, ⟨hl.turns, hl.own⟩, hg⟩

theorem walks_mergeProviders : ∀ (plugins : List W.Plugin) (s : Scene W),
    Walks host (plugins.forM (Discovery.mergeProvider host)) s
      (plugins.map fun plugin => .ask (.contribute plugin)) fun _ => True
  | [], _ => Walks.pure trivial
  | plugin :: plugins, s => by
    have h : Walks host (Discovery.mergeProvider host plugin) s [.ask (.contribute plugin)] fun _ => True :=
      Carries.silent (run_get s) (.none rfl rfl)
        ((Walks.ask (.contribute plugin) s.registry).last fun _ s' _ => Walks.emit _)
    exact h.cons fun _ s' _ => walks_mergeProviders plugins s'

theorem tracks_merge (b : Builder W) {s : Scene W} (hs : s.registry = b.registry) :
    Tracks host (unless b.pluginsMerged do Discovery.merge host b.loader) s b.merging fun _ => True := by
  unfold Builder.merging
  cases b.pluginsMerged with
  | true => exact Carries.pure ⟨hs.symm, trivial⟩
  | false =>
    simp only [Bool.false_eq_true, if_false, Discovery.merge, Discovery.discover]
    refine Carries.bind (Carries.ask (.load _ _) ()) fun configurers t s₁ hq => ?_
    obtain ⟨added, rfl, hs₁⟩ := hq
    obtain ⟨s₂, hr, hl, hs₂⟩ := run_mergeConfigurers host configurers s₁
    refine Carries.silent hr hl (Carries.bind (Carries.ask (.load _ _) ()) fun providers t s₃ hq => ?_)
    obtain ⟨added', rfl, hs₃⟩ := hq
    have h := walks_mergeProviders host providers s₃
    rw [Walks, hs₃, hs₂, hs₁, hs] at h
    exact h

theorem carries_suppliers : ∀ (suppliers : List W.Supplier) (s : Scene W),
    Carries host (suppliers.mapM fun supplier => ask host (.supply supplier) ()) s
      (each (suppliers.map fun supplier => .ask (.supply supplier)))
      fun sources ts s' => ts.map Turn.source = sources ∧
        s'.registry = ts.foldl (fun r t => r.extend t.added) s.registry
  | [], _ => Carries.pure ⟨rfl, rfl⟩
  | supplier :: suppliers, s => by
    rw [List.mapM_cons]
    refine Carries.bind (Carries.ask (.supply supplier) ()) fun source t s' hq => ?_
    obtain ⟨added, rfl, hs⟩ := hq
    refine Carries.bind (carries_suppliers suppliers s') fun sources ts s'' hq => Carries.pure ?_
    obtain ⟨rfl, hs'⟩ := hq
    exact ⟨rfl, by rw [hs', hs]; rfl⟩

theorem carries_snapshot (b : Builder W) (s : Scene W) :
    Carries host (b.snapshot host) s (b.settling s.registry)
      fun p b s' => b.1 = p ∧ b.2 = s'.registry := by
  unfold Builder.snapshot Builder.settling
  cases b.properties with
  | some p => exact Carries.pure ⟨rfl, rfl⟩
  | none =>
    simp only [Builder.supplied, bind_assoc, pure_bind]
    refine Carries.silent (run_get s) (.none rfl rfl) ?_
    refine Carries.bind (carries_suppliers host _ s) fun sources ts s₁ hq => ?_
    obtain ⟨rfl, hs₁⟩ := hq
    refine Carries.bind (Carries.ask .environment ()) fun environment t s₂ hq => Carries.pure ?_
    obtain ⟨added, rfl, hs₂⟩ := hq
    refine ⟨rfl, ?_⟩
    rw [hs₂, hs₁, List.foldl_append]
    rfl

/-! ## Providers -/

theorem walks_configureResource (p : Properties) (links : List (Link W)) (s : Scene W) :
    Walks host (configureResource host links p) s
      (.check .attributes :: links.map (fun link => .ask (.apply .resource link p)) ++ [.check .resource])
      fun _ => True := by
  unfold configureResource
  refine Walks.cons (Walks.check _ _) fun initial s₁ _ => ?_
  refine (walks_runChain host .resource p links _ s₁).bind fun customized s₂ _ => ?_
  refine (Walks.check _ _).last fun resource s₃ _ => ?_
  exact (Walks.emit _).map fun _ _ => trivial

theorem tracks_configureMeter (loader : W.Loader) (resource : Resource) (p : Properties) (s : Scene W) :
    Tracks host (configureMeter host loader resource p) s (Builder.metering host p loader s.registry)
      fun _ => True := by
  unfold configureMeter Builder.metering
  refine Tracks.bind (Walks.check _ _) fun asked s₁ _ => ?_
  refine Tracks.bind (tracks_configureExporters host .metrics p loader s₁) fun exporters s₂ _ => ?_
  refine Walks.last (Walks.check _ _) fun readers s₃ _ => ?_
  exact (Walks.emit _).map fun _ _ => trivial

theorem walks_customizeExporters (p : Properties) (links : List (Link W)) :
    ∀ (created : List (String × Exporter W.Exporter)) (s : Scene W),
    Walks host (customizeExporters host links p created) s
      ((created.map Prod.fst).flatMap fun _ => links.map fun link => .ask (.apply .spanExporter link p))
      fun _ => True
  | [], _ => Walks.pure trivial
  | (_, e) :: created, s =>
    (walks_runChain host .spanExporter p links (.proper e) s).bind fun _ s' _ =>
      (walks_customizeExporters p links created s').map fun _ _ => trivial

theorem tracks_configureTracer (loader : W.Loader) (p : Properties) (settings : Component W .tracerProvider)
    (s : Scene W) :
    Tracks host (configureTracer host loader p (s.registry.resolve .spanExporter) (s.registry.resolve .sampler)
      settings) s (Builder.tracing host p loader s.registry) fun _ => True := by
  unfold configureTracer Builder.tracing
  refine Tracks.bind (Walks.check _ _) fun initial s₁ _ => ?_
  refine Tracks.bind (walks_runChain host .sampler p _ _ s₁) fun sampler s₂ _ => ?_
  refine Tracks.bind (tracks_configureExporters host .traces p loader s₂) fun created s₃ hc => ?_
  rw [← hc]
  refine Tracks.bind (walks_customizeExporters host p _ created.entries s₃) fun customized s₄ _ => ?_
  refine (Walks.check _ _).last fun processors s₅ _ => ?_
  exact (Walks.emit _).map fun _ _ => trivial

theorem tracks_configureLogger (loader : W.Loader) (resource : Resource) (p : Properties) (s : Scene W) :
    Tracks host (configureLogger host loader resource p) s (Builder.logging host p loader s.registry)
      fun _ => True := by
  unfold configureLogger Builder.logging
  refine Tracks.bind (tracks_configureExporters host .logs p loader s) fun created s₁ _ => ?_
  refine Walks.last (Walks.check _ _) fun processors s₂ _ => ?_
  exact (Walks.emit _).map fun _ _ => trivial

end

end Telemetry
