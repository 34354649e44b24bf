import Telemetry.Assembly.Builder
import Telemetry.Proofs.Customizer.Ledger

/-! # What an assembly leaves registered

An assembly never touches the registry by itself once the plugins are merged. So whatever it comes to,
and wherever it ends, the registry has grown by what outside code registered in the steps that were
taken. `Passive` says which actions this holds for, and what they ask for. -/

namespace Telemetry

open Assembly

section
variable {W : Outside}

theorem Registry.extend_append (r : Registry W) (added more : List (Addition W)) :
    r.extend (added ++ more) = (r.extend added).extend more :=
  List.foldl_append

def suppliersOf (added : List (Addition W)) : List W.Supplier :=
  added.filterMap fun
    | .customizer _ _ => none
    | .supplier s => some s

theorem suppliersOf_append (added more : List (Addition W)) :
    suppliersOf (added ++ more) = suppliersOf added ++ suppliersOf more :=
  List.filterMap_append

theorem Registry.suppliers_extend : ∀ (added : List (Addition W)) (r : Registry W),
    (r.extend added).suppliers = r.suppliers ++ suppliersOf added
  | [], r => (List.append_nil _).symm
  | a :: added, r => by
    have h : r.extend (a :: added) = (r.record a).extend added := rfl
    rw [h, suppliers_extend added, ← List.singleton_append, suppliersOf_append, ← List.append_assoc]
    congr 1
    cases a with
    | customizer kind link => exact (List.append_nil _).symm
    | supplier s => rfl

/-! ## Actions without a hand on the registry -/

def Turn.Asks (P : Request W → Prop) : Turn W → Prop
  | .asked r _ _ _ => P r
  | .checked _ _ => True

structure Grew (P : Request W → Prop) (s : Scene W) (ts : List (Turn W)) (s' : Scene W) : Prop where
  turns : s'.turns = s.turns ++ ts
  registry : s'.registry = s.registry.extend (ts.flatMap Turn.added)
  asks : ∀ t ∈ ts, t.Asks P

section
variable {P Q : Request W → Prop} {s s' s'' : Scene W} {ts us : List (Turn W)}

theorem Grew.none (ht : s'.turns = s.turns) (hr : s'.registry = s.registry) : Grew P s [] s' :=
  ⟨by rw [ht, List.append_nil], hr, fun _ ht => absurd ht List.not_mem_nil⟩

theorem Grew.append (h : Grew P s ts s') (h' : Grew P s' us s'') : Grew P s (ts ++ us) s'' where
  turns := by rw [h'.turns, h.turns, List.append_assoc]
  registry := by rw [h'.registry, h.registry, List.flatMap_append, Registry.extend_append]
  asks t ht := by
    rcases List.mem_append.mp ht with ht | ht
    · exact h.asks t ht
    · exact h'.asks t ht

theorem Grew.mono (h : Grew P s ts s') (hPQ : ∀ r, P r → Q r) : Grew Q s ts s' where
  turns := h.turns
  registry := h.registry
  asks t ht := by
    have := h.asks t ht
    cases t with
    | asked r _ _ _ => exact hPQ r this
    | checked _ _ => exact trivial

end

/-- Actions put together from questions of some sort, checks, log entries and looks at the scene. -/
inductive Passive (host : Host W) (P : Request W → Prop) : {α : Type} → Assembly W α → Prop
  | pure {α : Type} (a : α) : Passive host P (pure a)
  | bind {α β : Type} {act : Assembly W α} {k : α → Assembly W β} :
    Passive host P act → (∀ a, Passive host P (k a)) → Passive host P (act >>= k)
  | get : Passive host P get
  | emit (e : Event) : Passive host P (emit e)
  | check {α : Type} (c : Check W) (r : Except Fault α) : Passive host P (check c r)
  | ask {r : Request W} (input : r.Input) : P r → Passive host P (ask host r input)

section
variable {host : Host W} {P : Request W → Prop} {α β : Type}

theorem grew_ask (host : Host W) {r : Request W} (hr : P r) (input : r.Input) (s : Scene W) :
    ∃ answer added, Grew P s [.asked r input answer added] (run (ask host r input) s).2 := by
  obtain ⟨answer, v, -, h⟩ := run_ask host r input s
  refine ⟨answer, v.added, ⟨?_, ?_, ?_⟩⟩
  · rw [h]
  · rw [h]
    simp [Turn.added]
  · intro t ht
    cases List.mem_singleton.mp ht
    exact hr

theorem Passive.grows {act : Assembly W α} (h : Passive host P act) (s : Scene W) :
    ∃ ts, Grew P s ts (run act s).2 := by
  induction h generalizing s with
  | pure a => exact ⟨[], .none rfl rfl⟩
  | get => exact ⟨[], .none rfl rfl⟩
  | emit e => exact ⟨[], .none rfl rfl⟩
  | check c r =>
    refine ⟨_, ⟨rfl, rfl, fun t ht => ?_⟩⟩
    cases List.mem_singleton.mp ht
    exact trivial
  | ask input hr =>
    obtain ⟨answer, added, hg⟩ := grew_ask host hr input s
    exact ⟨_, hg⟩
  | @bind _ _ act k _ _ ih ihk =>
    -- What was registered before a fault stays registered.
    obtain ⟨ts, hg⟩ := ih s
    rcases run_bind_cases act k s with ⟨f, s', hr, h⟩ | ⟨a, s', hr, h⟩
    · rw [hr] at hg
      rw [h]
      exact ⟨ts, hg⟩
    · rw [hr] at hg
      rw [h]
      obtain ⟨us, hg'⟩ := ihk a s'
      exact ⟨ts ++ us, hg.append hg'⟩

theorem Passive.resolve (k : Kind) : Passive host P (resolve k) := .bind .get fun _ => .pure _

theorem Passive.mapM {f : α → Assembly W β} (hf : ∀ a, Passive host P (f a)) :
    ∀ as : List α, Passive host P (as.mapM f)
  | [] => by
    rw [List.mapM_nil]
    exact .pure _
  | a :: as => by
    rw [List.mapM_cons]
    exact .bind (hf a) fun b => .bind (mapM hf as) fun bs => .pure _

theorem Passive.runChain {k : Kind} {p : Properties} (hP : ∀ link, P (.apply k link p)) :
    ∀ (links : List (Link W)) (value : Artifact W k), Passive host P (runChain host k links p value)
  | [], value => .pure value
  | link :: links, value => by
    rw [runChain_cons]
    exact .bind (.ask _ (hP link)) fun value => runChain hP links value

end

/-! ## Quiet stages -/

def Names.merged : List String := [Names.tracerProviderConfigurers, Names.customizerProviders]

def Request.merges : Request W → Bool
  | .load _ group => Names.merged.contains group
  | .contribute _ => true
  | _ => false

def Request.applied? (k : Kind) : Request W → Option (Link W)
  | .apply kind link _ => if kind = k then some link else none
  | _ => none

structure Request.Quiet (r : Request W) : Prop where
  merges : r.merges = false
  applied : r.applied? .tracerProvider = none

abbrev Quiet (host : Host W) {α : Type} (act : Assembly W α) : Prop := Passive host Request.Quiet act

section
variable (host : Host W) (loader : W.Loader) (p : Properties)

theorem quiet_runChain (k : Kind) (hk : k ≠ .tracerProvider) (links : List (Link W)) (value : Artifact W k) :
    Quiet host (runChain host k links p value) :=
  .runChain (fun _ => ⟨rfl, if_neg hk⟩) links value

theorem quiet_loaded {group : String} (h : group ∉ Names.merged) (known : Option (Selection.Table W)) :
    Quiet host (Selection.loaded host loader group known) := by
  cases known with
  | some table => exact .pure table
  | none =>
    have hm : (Request.load loader group).merges = false := by simp [Request.merges, h]
    refine .bind (.ask _ ⟨hm, rfl⟩) fun plugins => ?_
    exact .bind (.mapM (fun plugin => .bind (.check _ _) fun name => .pure _) plugins) fun named => .pure _

theorem exporterCatalogue_group (signal : Signal) : (exporterCatalogue W signal).group ∉ Names.merged := by
  cases signal <;> simp [exporterCatalogue, Names.merged, Names.spanExporters, Names.metricExporters,
    Names.logExporters, Names.tracerProviderConfigurers, Names.customizerProviders]

theorem quiet_createExporters (signal : Signal) : ∀ (names : List String) (known : Option (Selection.Table W)),
    Quiet host (createExporters host loader (exporterCatalogue W signal) p names known)
  | [], _ => .pure []
  | name :: names, known => by
    rw [createExporters]
    split
    · refine .bind (.check _ _) fun e => .bind (.emit _) fun _ => ?_
      exact .bind (quiet_createExporters signal names known) fun _ => .pure _
    · refine .bind (quiet_loaded host loader (exporterCatalogue_group signal) known) fun table => ?_
      refine .bind (.check _ _) fun plugin => .bind (.ask _ ⟨rfl, rfl⟩) fun e => .bind (.emit _) fun _ => ?_
      exact .bind (quiet_createExporters signal names (some table)) fun _ => .pure _

theorem quiet_configureExporters (signal : Signal) :
    Quiet host (configureExporters host loader (exporterCatalogue W signal) p) := by
  refine .bind (.check _ _) fun names => ?_
  exact .bind (quiet_createExporters host loader p signal names none) fun _ => .pure _

theorem quiet_createPropagators (chain : List (Link W)) :
    ∀ (names : List String) (known : Option (Selection.Table W)),
    Quiet host (createPropagators host loader chain p names known)
  | [], _ => .pure []
  | name :: names, known => by
    rw [createPropagators]
    split
    · refine .bind (.check _ _) fun made => ?_
      refine .bind (quiet_runChain host p .propagator nofun chain _) fun customized => ?_
      exact .bind (quiet_createPropagators chain names known) fun _ => .pure _
    · refine .bind (quiet_loaded host loader (by decide) known) fun table => ?_
      refine .bind (.check _ _) fun plugin => .bind (.ask _ ⟨rfl, rfl⟩) fun made => ?_
      refine .bind (quiet_runChain host p .propagator nofun chain _) fun customized => ?_
      exact .bind (quiet_createPropagators chain names (some table)) fun _ => .pure _

theorem quiet_configurePropagators (chain : List (Link W)) :
    Quiet host (configurePropagators host loader chain p) := by
  refine .bind (.check _ _) fun names => ?_
  exact .bind (quiet_createPropagators host loader p chain names none) fun _ => .bind (.emit _) fun _ => .pure _

theorem quiet_configureResource (chain : List (Link W)) : Quiet host (configureResource host chain p) := by
  refine .bind (.check _ _) fun initial => ?_
  refine .bind (quiet_runChain host p .resource nofun chain _) fun customized => ?_
  exact .bind (.check _ _) fun _ => .bind (.emit _) fun _ => .pure _

theorem quiet_configureMeter (resource : Resource) : Quiet host (configureMeter host loader resource p) := by
  refine .bind (.check _ _) fun asked => ?_
  refine .bind (quiet_configureExporters host loader p .metrics) fun exporters => ?_
  exact .bind (.check _ _) fun _ => .bind (.emit _) fun _ => .pure _

theorem quiet_customizeExporters (chain : List (Link W)) : ∀ created : List (String × Exporter W.Exporter),
    Quiet host (customizeExporters host chain p created)
  | [] => .pure []
  | (_, e) :: created => .bind (quiet_runChain host p .spanExporter nofun chain (.proper e)) fun _ =>
    .bind (quiet_customizeExporters chain created) fun _ => .pure _

theorem quiet_configureTracer (exporterChain samplerChain : List (Link W))
    (settings : Component W .tracerProvider) :
    Quiet host (configureTracer host loader p exporterChain samplerChain settings) := by
  refine .bind (.check _ _) fun initial => ?_
  refine .bind (quiet_runChain host p .sampler nofun samplerChain _) fun sampler => ?_
  refine .bind (quiet_configureExporters host loader p .traces) fun created => ?_
  refine .bind (quiet_customizeExporters host p exporterChain created.entries) fun customized => ?_
  exact .bind (.check _ _) fun _ => .bind (.emit _) fun _ => .pure _

theorem quiet_configureLogger (resource : Resource) : Quiet host (configureLogger host loader resource p) := by
  refine .bind (quiet_configureExporters host loader p .logs) fun created => ?_
  exact .bind (.check _ _) fun _ => .bind (.emit _) fun _ => .pure _

theorem quiet_snapshot (b : Builder W) : Quiet host (b.snapshot host) := by
  unfold Builder.snapshot
  cases b.properties with
  | some p => exact .pure p
  | none =>
    have hs : Quiet host (Builder.supplied host) := by
      refine .bind .get fun s => .bind (.mapM (fun supplier => ?_) s.registry.suppliers) fun _ => .pure _
      exact .ask (r := .supply supplier) () ⟨rfl, rfl⟩
    exact .bind hs fun _ => .bind (.ask (r := .environment) () ⟨rfl, rfl⟩) fun _ => .pure _

end

/-! ## The chain of the tracer provider -/

def Turn.merges : Turn W → Bool
  | .asked r _ _ _ => r.merges
  | .checked _ _ => false

def Turn.applied? (k : Kind) : Turn W → Option (Link W)
  | .asked r _ _ _ => r.applied? k
  | .checked _ _ => none

def Turn.snapshot? : Turn W → Option Properties
  | .asked (.apply _ _ p) _ _ _ => some p
  | .asked (.createExporter _ p) _ _ _ => some p
  | .asked (.createPropagator _ p) _ _ _ => some p
  | _ => none

/-- The turns of an action that merges nothing, and that applies to the tracer provider what was
registered for it by then, in order, and then perhaps some of what was registered meanwhile. All of it
is applied unless the action raises. -/
structure Orderly {α : Type} (s : Scene W) (ts : List (Turn W)) (x : Except Fault α × Scene W) : Prop where
  grew : Grew (fun r => r.merges = false) s ts x.2
  applied : ∃ more, ts.filterMap (Turn.applied? .tracerProvider) <+: s.registry.chains .tracerProvider ++ more ∧
    ∀ a, x.1 = .ok a → ts.filterMap (Turn.applied? .tracerProvider) = s.registry.chains .tracerProvider ++ more

section
variable {host : Host W} {α β : Type} {s s' s'' : Scene W} {ts us : List (Turn W)}

theorem Grew.unmerged (h : Grew (fun r => r.merges = false) s ts s') : ∀ t ∈ ts, t.merges = false := by
  intro t ht
  have ha := h.asks t ht
  cases t with
  | asked r input answer added => exact ha
  | checked c fault => rfl

theorem Grew.applied_quiet (h : Grew Request.Quiet s ts s') : ts.filterMap (Turn.applied? .tracerProvider) = [] := by
  rw [List.filterMap_eq_nil_iff]
  intro t ht
  have ha := h.asks t ht
  cases t with
  | asked r input answer added => exact ha.applied
  | checked c fault => rfl

theorem Orderly.error (h : Grew Request.Quiet s ts s') (f : Fault) :
    Orderly s ts ((.error f, s') : Except Fault α × Scene W) where
  grew := h.mono fun _ hr => hr.merges
  applied := by
    refine ⟨[], ?_, nofun⟩
    rw [h.applied_quiet]
    exact List.nil_prefix

theorem Orderly.after_quiet {x : Except Fault α × Scene W} (h : Grew Request.Quiet s ts s') (h' : Orderly s' us x) :
    Orderly s (ts ++ us) x where
  grew := (h.mono fun _ hr => hr.merges).append h'.grew
  applied := by
    obtain ⟨more, hm⟩ := h'.applied
    refine ⟨customizersOf .tracerProvider (ts.flatMap Turn.added) ++ more, ?_⟩
    rw [List.filterMap_append, h.applied_quiet, List.nil_append, ← List.append_assoc,
      ← Registry.chains_extend, ← h.registry]
    exact hm

def KeepsOrder (act : Assembly W α) : Prop := ∀ s, ∃ ts, Orderly s ts (run act s)

theorem KeepsOrder.after_quiet (host : Host W) {act : Assembly W α} {k : α → Assembly W β} (h : Quiet host act)
    (hk : ∀ a, KeepsOrder (k a)) : KeepsOrder (act >>= k) := by
  intro s
  obtain ⟨ts, hg⟩ := h.grows s
  rcases run_bind_cases act k s with ⟨f, s', hr, h⟩ | ⟨a, s', hr, h⟩
  · rw [hr] at hg
    rw [h]
    exact ⟨ts, .error hg f⟩
  · rw [hr] at hg
    rw [h]
    obtain ⟨us, ho⟩ := hk a s'
    exact ⟨ts ++ us, .after_quiet hg ho⟩

theorem grew_runChain (host : Host W) (k : Kind) (p : Properties) : ∀ (links : List (Link W))
    (value : Artifact W k) (s : Scene W),
    ∃ ts, Grew (fun r => r.merges = false) s ts (run (runChain host k links p value) s).2 ∧
      ts.filterMap (Turn.applied? k) <+: links ∧
      ∀ a, (run (runChain host k links p value) s).1 = .ok a → ts.filterMap (Turn.applied? k) = links
  | [], value, s => ⟨[], .none rfl rfl, List.nil_prefix, fun _ _ => rfl⟩
  | link :: links, value, s => by
    obtain ⟨answer, added, hg⟩ := grew_ask (P := fun r => r.merges = false) host
      (r := .apply k link p) rfl value s
    have hl : Turn.applied? k (.asked (.apply k link p) value answer added) = some link := if_pos rfl
    rw [runChain_cons]
    rcases run_bind_cases (ask host (.apply k link p) value) (runChain host k links p) s with
      ⟨f, s', hr, h⟩ | ⟨value', s', hr, h⟩
    · rw [hr] at hg
      rw [h]
      refine ⟨_, hg, ?_, nofun⟩
      rw [List.filterMap_cons_some hl]
      exact List.cons_prefix_cons.mpr ⟨rfl, List.nil_prefix⟩
    · rw [hr] at hg
      rw [h]
      obtain ⟨us, hg', hp, he⟩ := grew_runChain host k p links value' s'
      refine ⟨_, hg.append hg', ?_, fun a ha => ?_⟩
      · rw [List.filterMap_append, List.filterMap_cons_some hl]
        exact List.cons_prefix_cons.mpr ⟨rfl, hp⟩
      · rw [List.filterMap_append, List.filterMap_cons_some hl, he a ha]
        rfl

theorem keepsOrder_chain {p : Properties} {value : Artifact W .tracerProvider}
    {k : Artifact W .tracerProvider → Assembly W β} (hk : ∀ a, Quiet host (k a)) :
    KeepsOrder (resolve .tracerProvider >>= fun links => runChain host .tracerProvider links p value >>= k) := by
  intro s
  obtain ⟨ts, hg, hp, he⟩ := grew_runChain host .tracerProvider p (s.registry.resolve .tracerProvider) value s
  rw [run_bind_ok (run_resolve .tracerProvider s)]
  rcases run_bind_cases (runChain host .tracerProvider (s.registry.resolve .tracerProvider) p value) k s with
    ⟨f, s', hr, h⟩ | ⟨a, s', hr, h⟩
  · rw [hr] at hg
    rw [h]
    refine ⟨ts, hg, [], ?_, nofun⟩
    rw [List.append_nil]
    exact hp
  · rw [hr] at hg he
    rw [h]
    obtain ⟨us, hg'⟩ := (hk a).grows s'
    have ha : (ts ++ us).filterMap (Turn.applied? .tracerProvider) = s.registry.chains .tracerProvider ++ [] := by
      rw [List.filterMap_append, hg'.applied_quiet, he a rfl]
      rfl
    exact ⟨ts ++ us, hg.append (hg'.mono fun _ hr => hr.merges), [], ha ▸ List.prefix_rfl, fun _ _ => ha⟩

end

/-- Once plugins are merged, an assembly keeps the order in which the tracer provider is customized. -/
theorem keepsOrder_settled (host : Host W) (b : Builder W) :
    KeepsOrder (b.snapshot host >>= Builder.assembleFrom host b.loader) := by
  refine .after_quiet host (quiet_snapshot host b) fun p => ?_
  unfold Builder.assembleFrom
  refine .after_quiet host (.resolve .resource) fun chain => ?_
  refine .after_quiet host (quiet_configureResource host p chain) fun resource => ?_
  refine .after_quiet host (quiet_configureMeter host b.loader p resource) fun meter => ?_
  refine .after_quiet host (.resolve .spanExporter) fun exporterChain => ?_
  refine .after_quiet host (.resolve .sampler) fun samplerChain => ?_
  refine .after_quiet host (quiet_configureTracer host b.loader p exporterChain samplerChain _) fun initial => ?_
  refine keepsOrder_chain fun customized => ?_
  refine .bind (.check _ _) fun settings => ?_
  refine .bind (quiet_configureLogger host b.loader p resource) fun logger => ?_
  refine .bind (.resolve .propagator) fun chain => ?_
  exact .bind (quiet_configurePropagators host b.loader p chain) fun _ => .pure _

end

end Telemetry
