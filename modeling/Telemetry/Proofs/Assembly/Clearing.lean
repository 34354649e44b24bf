import Telemetry.Proofs.Assembly.Agenda

/-! # Actions that keep to agendas

`Clears` relates an action of an assembly to an agenda: from a given scene the action takes turns that
keep to it, whatever comes of them. It is closed under sequencing, so each stage of an assembly is seen
to clear its own part of the agenda, with what is registered when the stage begins. -/

namespace Telemetry

open Assembly

section
variable {W : Outside} {α β : Type}

/-- From a scene an action takes turns that keep to an agenda. If it does not raise, its result, the
agenda that is left and the last scene are related. -/
def Clears (p : Properties) (act : Assembly W α) (s : Scene W) (a : Agenda W)
    (Q : α → Agenda W → Scene W → Prop) : Prop :=
  ∃ ts left, Grew (fun r => r.merges = false) s ts (run act s).2 ∧ Keeps p s.registry a ts left ∧
    ∀ x, (run act s).1 = .ok x → Q x left (run act s).2

abbrev Leaving (a : Agenda W) (Q : α → Prop) : α → Agenda W → Scene W → Prop := fun x b _ => b = a ∧ Q x

namespace Clears
variable {host : Host W} {p : Properties} {s : Scene W} {a b : Agenda W} {σ : Stage} {ahead : List Stage}
  {Q Q' : α → Agenda W → Scene W → Prop} {R : β → Agenda W → Scene W → Prop}

theorem pure {x : α} (h : Q x a s) : Clears p (pure x) s a Q := by
  refine ⟨[], a, .none rfl rfl, .nil _ _, fun y hy => ?_⟩
  cases hy
  exact h

theorem bind {act : Assembly W α} {k : α → Assembly W β} (h : Clears p act s a Q)
    (hk : ∀ x b s', Q x b s' → Clears p (k x) s' b R) : Clears p (act >>= k) s a R := by
  obtain ⟨ts, left, hg, ht, hq⟩ := h
  unfold Clears
  rcases run_bind_cases act k s with ⟨f, s', hr, he⟩ | ⟨x, s', hr, he⟩
  · rw [hr] at hg
    rw [he]
    exact ⟨ts, left, hg, ht, nofun⟩
  · rw [hr] at hg hq
    obtain ⟨us, rest, hg', hu, hq'⟩ := hk x left s' (hq x rfl)
    rw [hg.registry, ← registrations_of_not_merges hg.unmerged] at hu
    rw [he]
    exact ⟨ts ++ us, rest, hg.append hg', ht.append hu, hq'⟩

theorem andThen {act : Assembly W α} {k : α → Assembly W β} {P : α → Prop} (h : Clears p act s a (Leaving b P))
    (hk : ∀ x s', P x → Clears p (k x) s' b R) : Clears p (act >>= k) s a R := by
  refine h.bind fun x c s' hx => ?_
  obtain ⟨rfl, hx⟩ := hx
  exact hk x s' hx

theorem tracked {act : Assembly W α} {plan : Plan W (Registry W)} {P : α → Prop}
    (h : Clears p act s a (Leaving b fun _ => True)) (ht : Tracks host act s plan P) :
    Clears p act s a (Leaving b P) := by
  obtain ⟨ts, left, hg, hk, hq⟩ := h
  refine ⟨ts, left, hg, hk, fun x hx => ⟨(hq x hx).1, ?_⟩⟩
  cases ht with
  | ok hr _ _ hp =>
    rw [hr] at hx
    cases hx
    exact hp.2
  | error hr _ _ =>
    rw [hr] at hx
    cases hx

theorem resolve {kind : Kind} {k : List (Link W) → Assembly W β}
    (h : Clears p (k (s.registry.resolve kind)) s a R) : Clears p (Assembly.resolve kind >>= k) s a R := by
  unfold Clears
  rw [run_bind_ok (run_resolve kind s)]
  exact h

theorem emit (e : Event) : Clears p (Assembly.emit e) s a fun _ b s' => b = a ∧ s'.registry = s.registry :=
  ⟨[], a, .none rfl rfl, .nil _ _, fun _ _ => ⟨rfl, rfl⟩⟩

theorem grew_check (c : Check W) (r : Except Fault α) (s : Scene W) :
    ∃ fault, Grew (fun r => r.merges = false) s [.checked c fault] (run (Assembly.check c r) s).2 := by
  refine ⟨_, rfl, rfl, fun t ht => ?_⟩
  cases List.mem_singleton.mp ht
  exact trivial

theorem check {c : Check W} (r : Except Fault α) (hc : c.opens? = none) :
    Clears p (Assembly.check c r) s a (Leaving a fun x => r = .ok x) := by
  obtain ⟨fault, hg⟩ := grew_check c r s
  exact ⟨_, a, hg, .pass rfl hc (.nil _ _), fun x hx => ⟨rfl, hx⟩⟩

theorem opening {c : Check W} (r : Except Fault α) (hc : c.opens? = some σ) :
    Clears p (Assembly.check c r) s ⟨[], σ :: ahead⟩ fun x b s' =>
      b = ⟨σ.uses p s.registry.chains, ahead⟩ ∧ r = .ok x ∧ s'.registry = s.registry := by
  obtain ⟨fault, hg⟩ := grew_check c r s
  exact ⟨_, _, hg, .opens hc (.nil _ _), fun x hx => ⟨rfl, hx, rfl⟩⟩

theorem ask {r : Request W} (input : r.Input) (hm : r.merges = false) (ha : r.application? = none) :
    Clears p (Assembly.ask host r input) s a (Leaving a fun _ => True) := by
  obtain ⟨answer, added, hg⟩ := grew_ask (P := fun r => r.merges = false) host hm input s
  exact ⟨_, a, hg, .pass ha rfl (.nil _ _), fun _ _ => ⟨rfl, trivial⟩⟩

theorem apply {due : List (Kind × Link W)} (k : Kind) (link : Link W) (value : Artifact W k) :
    Clears p (Assembly.ask host (.apply k link p) value) s ⟨(k, link) :: due, ahead⟩
      (Leaving ⟨due, ahead⟩ fun _ => True) := by
  obtain ⟨answer, added, hg⟩ := grew_ask (P := fun r => r.merges = false) host (r := .apply k link p) rfl value s
  exact ⟨_, _, hg, .apply rfl (.nil _ _), fun _ _ => ⟨rfl, trivial⟩⟩

theorem chain {due : List (Kind × Link W)} (k : Kind) : ∀ (links : List (Link W)) (value : Artifact W k) (s : Scene W),
    Clears p (runChain host k links p value) s ⟨(links.map fun link => (k, link)) ++ due, ahead⟩
      (Leaving ⟨due, ahead⟩ fun _ => True)
  | [], _, _ => .pure ⟨rfl, trivial⟩
  | link :: links, value, s => by
    rw [runChain_cons]
    exact (Clears.apply k link value).andThen fun value s' _ => chain k links value s'

theorem mapM {γ : Type} {f : γ → Assembly W α} (hf : ∀ x s, Clears p (f x) s a (Leaving a fun _ => True)) :
    ∀ (xs : List γ) (s : Scene W), Clears p (xs.mapM f) s a (Leaving a fun _ => True)
  | [], _ => by
    rw [List.mapM_nil]
    exact .pure ⟨rfl, trivial⟩
  | x :: xs, s => by
    rw [List.mapM_cons]
    exact (hf x s).andThen fun _ s' _ => (mapM hf xs s').andThen fun _ _ _ => .pure ⟨rfl, trivial⟩

theorem ends {act : Assembly W α} (h : Clears p act s a Q) :
    Clears p act s a fun x b s' => Q x b s' ∧ run act s = (.ok x, s') := by
  obtain ⟨ts, left, hg, hk, hq⟩ := h
  exact ⟨ts, left, hg, hk, fun x hx => ⟨hq x hx, Prod.ext hx rfl⟩⟩

theorem last {act : Assembly W α} {links : List (Kind × Link W)}
    (h : Clears p act s ⟨links ++ [], ahead⟩ Q) : Clears p act s ⟨links, ahead⟩ Q := by
  rw [List.append_nil] at h
  exact h

end Clears

/-! ## Components -/

section
variable (host : Host W) (loader : W.Loader) (p : Properties)

theorem clears_loaded {group : String} (h : group ∉ Names.merged) (known : Option (Selection.Table W)) (s : Scene W)
    (a : Agenda W) : Clears p (Selection.loaded host loader group known) s a (Leaving a fun _ => True) := by
  have hm : (Request.load loader group).merges = false := by simp [Request.merges, h]
  cases known with
  | some table => exact .pure ⟨rfl, trivial⟩
  | none =>
    refine (Clears.ask () hm rfl).andThen fun plugins s' _ => ?_
    refine (Clears.mapM (fun plugin s => ?_) plugins s').andThen fun _ _ _ => .pure ⟨rfl, trivial⟩
    exact (Clears.check _ rfl).andThen fun _ _ _ => .pure ⟨rfl, trivial⟩

section
variable {α : Type} (o : Offering W) {native : String → Assembly W α} {foreign : String → W.Plugin → Assembly W α}
  (after : List (Kind × Link W)) (ahead : List Stage) (hg : o.group ∉ Names.merged)
  (hn : ∀ name s due, o.builtin.contains name →
    Clears p (native name) s ⟨after ++ due, ahead⟩ (Leaving ⟨due, ahead⟩ fun _ => True))
  (hf : ∀ name plugin s due,
    Clears p (foreign name plugin) s ⟨after ++ due, ahead⟩ (Leaving ⟨due, ahead⟩ fun _ => True))
include hg hn hf

theorem clears_creating (due : List (Kind × Link W)) : ∀ (names : List String) (known : Option (Selection.Table W))
    (s : Scene W), Clears p (o.creating host loader native foreign names known) s
      ⟨(names.flatMap fun _ => after) ++ due, ahead⟩ (Leaving ⟨due, ahead⟩ fun _ => True)
  | [], _, _ => .pure ⟨rfl, trivial⟩
  | name :: names, known, s => by
    rw [List.flatMap_cons, List.append_assoc, Offering.creating]
    split
    · rename_i hb
      refine (hn name s _ hb).andThen fun x s' _ => ?_
      exact (clears_creating due names known s').andThen fun _ _ _ => .pure ⟨rfl, trivial⟩
    · refine (clears_loaded host loader p hg known s _).andThen fun table s₁ _ => ?_
      refine (Clears.check _ rfl).andThen fun plugin s₂ _ => ?_
      refine (hf name plugin s₂ _).andThen fun x s₃ _ => ?_
      exact (clears_creating due names (some table) s₃).andThen fun _ _ _ => .pure ⟨rfl, trivial⟩

end

theorem exporters_key (signal : Signal) : (Check.names (exporterCatalogue W signal).key : Check W).opens? = none := by
  have hne : (exporterCatalogue W signal).key ≠ Names.propagators := by
    cases signal with
    | traces => exact (by decide : Names.tracesExporter ≠ Names.propagators)
    | metrics => exact (by decide : Names.metricsExporter ≠ Names.propagators)
    | logs => exact (by decide : Names.logsExporter ≠ Names.propagators)
  exact if_neg hne

theorem clears_nativeExporter (signal : Signal) (name : String) (s : Scene W) (a : Agenda W) :
    Clears p (nativeExporter signal p name) s a (Leaving a fun _ => True) := by
  refine (Clears.check _ rfl).andThen fun e s' _ => (Clears.emit _).bind fun _ _ _ h => ?_
  exact .pure ⟨h.1, trivial⟩

theorem clears_foreignExporter (signal : Signal) (name : String) (plugin : W.Plugin) (s : Scene W) (a : Agenda W) :
    Clears p (foreignExporter host signal p name plugin) s a (Leaving a fun _ => True) := by
  refine (Clears.ask (r := .createExporter plugin p) () rfl rfl).andThen fun e s' _ => ?_
  refine (Clears.emit _).bind fun _ _ _ h => ?_
  exact .pure ⟨h.1, trivial⟩

theorem clears_configureExporters (signal : Signal) (s : Scene W) (a : Agenda W) :
    Clears p (configureExporters host loader (exporterCatalogue W signal) p) s a
      (Leaving a fun m => m.entries.map Prod.fst = (Offering.exporters signal : Offering W).names p) := by
  refine Clears.tracked ?_ (tracks_configureExporters host signal p loader s)
  refine (Clears.check _ (exporters_key signal)).andThen fun names s₁ _ => ?_
  have hc := clears_creating host loader p (Offering.exporters signal) [] a.ahead (exporterCatalogue_group signal)
    (fun name s due _ => clears_nativeExporter p signal name s ⟨due, a.ahead⟩)
    (fun name plugin s due => clears_foreignExporter host p signal name plugin s ⟨due, a.ahead⟩) a.due names none s₁
  rw [List.flatMap_eq_nil_iff.mpr fun _ _ => rfl] at hc
  rw [createExporters_eq]
  exact hc.andThen fun _ _ _ => .pure ⟨rfl, trivial⟩

theorem clears_nativePropagator (chain : List (Link W)) (name : String) {due : List (Kind × Link W)}
    {ahead : List Stage} (s : Scene W) :
    Clears p (nativePropagator host chain p name) s ⟨(chain.map fun link => (.propagator, link)) ++ due, ahead⟩
      (Leaving ⟨due, ahead⟩ fun _ => True) :=
  (Clears.check _ rfl).andThen fun _ s' _ => .chain .propagator chain _ s'

theorem clears_foreignPropagator (chain : List (Link W)) (name : String) (plugin : W.Plugin)
    {due : List (Kind × Link W)} {ahead : List Stage} (s : Scene W) :
    Clears p (foreignPropagator host chain p name plugin) s ⟨(chain.map fun link => (.propagator, link)) ++ due, ahead⟩
      (Leaving ⟨due, ahead⟩ fun _ => True) :=
  (Clears.ask (r := .createPropagator plugin p) () rfl rfl).andThen fun _ s' _ => .chain .propagator chain _ s'

/-! ## Stages -/

theorem clears_configureResource (ahead : List Stage) (s : Scene W) :
    Clears p (configureResource host (s.registry.resolve .resource) p) s ⟨[], .resource :: ahead⟩
      (Leaving ⟨[], ahead⟩ fun _ => True) := by
  refine (Clears.opening _ rfl).bind fun initial a s₁ ha => ?_
  obtain ⟨rfl, -, -⟩ := ha
  refine Clears.andThen (Clears.chain .resource _ _ s₁).last fun customized s₂ _ => ?_
  refine (Clears.check _ rfl).andThen fun resource s₃ _ => ?_
  exact (Clears.emit _).bind fun _ _ _ h => .pure ⟨h.1, trivial⟩

theorem clears_configureMeter (resource : Resource) (s : Scene W) (a : Agenda W) :
    Clears p (configureMeter host loader resource p) s a (Leaving a fun _ => True) := by
  refine (Clears.check _ rfl).andThen fun asked s₁ _ => ?_
  refine (clears_configureExporters host loader p .metrics s₁ a).andThen fun exporters s₂ _ => ?_
  refine (Clears.check _ rfl).andThen fun readers s₃ _ => ?_
  exact (Clears.emit _).bind fun _ _ _ h => .pure ⟨h.1, trivial⟩

theorem clears_customizeExporters (chain : List (Link W)) (ahead : List Stage) :
    ∀ (created : List (String × Exporter W.Exporter)) (s : Scene W),
    Clears p (customizeExporters host chain p created) s
      ⟨(created.map Prod.fst).flatMap fun _ => chain.map fun link => (.spanExporter, link), ahead⟩
      (Leaving ⟨[], ahead⟩ fun _ => True)
  | [], _ => .pure ⟨rfl, trivial⟩
  | (_, e) :: created, s => by
    rw [List.map_cons, List.flatMap_cons]
    refine (Clears.chain .spanExporter chain (.proper e) s).andThen fun customized s' _ => ?_
    exact (clears_customizeExporters chain ahead created s').andThen fun _ _ _ => .pure ⟨rfl, trivial⟩

theorem clears_configureTracer (settings : Component W .tracerProvider) (ahead : List Stage) (s : Scene W) :
    Clears p (configureTracer host loader p (s.registry.resolve .spanExporter) (s.registry.resolve .sampler) settings) s
      ⟨[], .tracing :: .settings :: ahead⟩ fun _ a s' => a = ⟨Stage.settings.uses p s'.registry.chains, ahead⟩ := by
  refine (Clears.opening _ rfl).bind fun initial a s₁ ha => ?_
  obtain ⟨rfl, -, -⟩ := ha
  refine (Clears.chain .sampler _ _ s₁).andThen fun sampler s₂ _ => ?_
  refine (clears_configureExporters host loader p .traces s₂ _).andThen fun created s₃ hc => ?_
  rw [← hc]
  refine (clears_customizeExporters host p _ _ created.entries s₃).andThen fun customized s₄ _ => ?_
  refine (Clears.opening _ rfl).bind fun processors a s₅ ha => ?_
  obtain ⟨rfl, -, hs⟩ := ha
  refine (Clears.emit _).bind fun _ a s₆ ha => .pure ?_
  obtain ⟨rfl, hs'⟩ := ha
  rw [hs', hs]

theorem clears_configureLogger (resource : Resource) (s : Scene W) (a : Agenda W) :
    Clears p (configureLogger host loader resource p) s a (Leaving a fun _ => True) := by
  refine (clears_configureExporters host loader p .logs s a).andThen fun created s₁ _ => ?_
  refine (Clears.check _ rfl).andThen fun processors s₂ _ => ?_
  exact (Clears.emit _).bind fun _ _ _ h => .pure ⟨h.1, trivial⟩

theorem clears_configurePropagators (ahead : List Stage) (s : Scene W) :
    Clears p (configurePropagators host loader (s.registry.resolve .propagator) p) s ⟨[], .propagating :: ahead⟩
      (Leaving ⟨[], ahead⟩ fun _ => True) := by
  have ho : (Check.names Names.propagators : Check W).opens? = some .propagating := by
    rw [Check.opens?, if_pos rfl]
  refine (Clears.opening _ ho).bind fun names a s₁ ha => ?_
  obtain ⟨rfl, hn, -⟩ := ha
  have hn : names = (Offering.propagators : Offering W).names p := Selection.names_eq hn
  have hg : Names.propagatorPlugins ∉ Names.merged := by decide
  have hc := clears_creating host loader p .propagators
    ((s.registry.resolve .propagator).map fun link => (.propagator, link)) ahead hg
    (fun name s due _ => clears_nativePropagator host p _ name s)
    (fun name plugin s due => clears_foreignPropagator host p _ name plugin s) [] names none s₁
  rw [hn, createPropagators_eq]
  rw [hn] at hc
  refine hc.last.andThen fun made s₂ _ => ?_
  exact (Clears.emit _).bind fun _ _ _ h => .pure ⟨h.1, trivial⟩

theorem clears_assembleFrom (s : Scene W) :
    Clears p (Builder.assembleFrom host loader p) s .initial (Leaving .finished fun bundle => bundle.properties = p) := by
  refine .resolve ?_
  refine (clears_configureResource host p _ s).andThen fun resource s₁ _ => ?_
  refine (clears_configureMeter host loader p resource s₁ _).andThen fun meter s₂ _ => ?_
  refine .resolve (.resolve ?_)
  refine (clears_configureTracer host loader p _ _ s₂).bind fun initial a s₃ ha => ?_
  obtain rfl := ha
  refine .resolve ?_
  refine (Clears.chain .tracerProvider _ _ s₃).last.andThen fun customized s₄ _ => ?_
  refine (Clears.check _ rfl).andThen fun settings s₅ _ => ?_
  refine (clears_configureLogger host loader p resource s₅ _).andThen fun logger s₆ _ => ?_
  refine .resolve ?_
  exact (clears_configurePropagators host loader p _ s₆).andThen fun propagators s₇ _ => .pure ⟨rfl, rfl⟩

theorem clears_snapshot (b : Builder W) (s : Scene W) (a : Agenda W) :
    Clears p (b.snapshot host) s a (Leaving a fun _ => True) := by
  unfold Builder.snapshot
  cases b.properties with
  | some p => exact .pure ⟨rfl, trivial⟩
  | none =>
    refine Clears.andThen (b := a) (P := fun _ => True) ?_ fun supplied s₁ _ => ?_
    · exact (Clears.mapM (fun supplier s => .ask (r := .supply supplier) () rfl rfl) _ s).andThen fun _ _ _ => .pure ⟨rfl, trivial⟩
    · exact (Clears.ask (r := .environment) () rfl rfl).andThen fun _ _ _ => .pure ⟨rfl, trivial⟩

end

end

end Telemetry
