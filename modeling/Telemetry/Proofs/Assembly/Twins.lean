import Telemetry.Proofs.Assembly.Growth
import Telemetry.Proofs.Properties.Alike

/-! # Twin assemblies

Two actions are twins if they are put together in the same way, and differ in the host that they ask and
in the snapshot that they hand to it. From snapshots that read alike, assemblies are twins. -/

namespace Telemetry

open Assembly

section
variable {W : Outside} {α β : Type}

/-! ## Requests under a snapshot -/

/-- What an assembly asks for when its settings are known: nothing that brings in further settings. -/
def Request.Within (p : Properties) (K : Kind → Prop) : Request W → Prop
  | .load _ group => group ∉ Names.merged
  | .apply k _ q => K k ∧ q = p
  | .createExporter _ q => q = p
  | .createPropagator _ q => q = p
  | _ => False

def Turn.under (q : Properties) : Turn W → Turn W
  | .asked (.apply k link _) input answer added => .asked (.apply k link q) input answer added
  | .asked (.createExporter plugin _) input answer added => .asked (.createExporter plugin q) input answer added
  | .asked (.createPropagator plugin _) input answer added => .asked (.createPropagator plugin q) input answer added
  | t => t

def Bundle.under (q : Properties) (b : Bundle W) : Bundle W := { b with properties := q }

/-! ## Sources -/

def Request.consults : Request W → Bool
  | .supply _ => true
  | .environment => true
  | _ => false

theorem Request.Within.consults {p : Properties} {K : Kind → Prop} {r : Request W} (h : r.Within p K) :
    r.consults = false := by
  cases r with
  | supply s => exact h.elim
  | environment => exact h.elim
  | _ => rfl

def Builder.consult (host : Host W) (suppliers : List W.Supplier) : Assembly W Source :=
  suppliers.mapM (fun supplier => ask host (.supply supplier) ()) >>= fun sources => pure (Source.layer sources)

theorem Builder.run_supplied (host : Host W) (s : Scene W) :
    run (Builder.supplied host) s = run (Builder.consult host s.registry.suppliers) s :=
  rfl

/-! ## Twins -/

/-- Customizers are applied of some kinds only. -/
inductive Twins (host host' : Host W) (p q : Properties) (K : Kind → Prop) :
    {α : Type} → Assembly W α → Assembly W α → Prop
  | pure {α : Type} (a : α) : Twins host host' p q K (pure a) (pure a)
  | bind {α β : Type} {act act' : Assembly W α} {k k' : α → Assembly W β} :
    Twins host host' p q K act act' → (∀ a, Twins host host' p q K (k a) (k' a)) →
      Twins host host' p q K (act >>= k) (act' >>= k')
  | resolve (k : Kind) : Twins host host' p q K (resolve k) (resolve k)
  | emit (e : Event) : Twins host host' p q K (emit e) (emit e)
  | check {α : Type} (c : Check W) {r r' : Except Fault α} : r' = r →
    Twins host host' p q K (check c r) (check c r')
  | load (loader : W.Loader) {group : String} : group ∉ Names.merged →
    Twins host host' p q K (ask host (.load loader group) ()) (ask host' (.load loader group) ())
  | apply {k : Kind} (link : Link W) (value : Artifact W k) : K k →
    Twins host host' p q K (ask host (.apply k link p) value) (ask host' (.apply k link q) value)
  | createExporter (plugin : W.Plugin) :
    Twins host host' p q K (ask host (.createExporter plugin p) ()) (ask host' (.createExporter plugin q) ())
  | createPropagator (plugin : W.Plugin) :
    Twins host host' p q K (ask host (.createPropagator plugin p) ()) (ask host' (.createPropagator plugin q) ())

theorem Twins.passive {host host' : Host W} {p q : Properties} {K : Kind → Prop} {act act' : Assembly W α}
    (h : Twins host host' p q K act act') : Passive host (Request.Within p K) act := by
  induction h with
  | pure a => exact .pure a
  | bind _ _ ih ihk => exact .bind ih ihk
  | resolve k => exact .resolve k
  | emit e => exact .emit e
  | check c _ => exact .check c _
  | load loader hg => exact .ask _ hg
  | apply link value hk => exact .ask (r := .apply _ link p) value ⟨hk, rfl⟩
  | createExporter plugin => exact .ask (r := .createExporter plugin p) () rfl
  | createPropagator plugin => exact .ask (r := .createPropagator plugin p) () rfl

/-! ## Stages -/

section
variable {host host' : Host W} {p q : Properties} {K : Kind → Prop}

theorem Twins.mapM {γ : Type} {f f' : γ → Assembly W α} (hf : ∀ x, Twins host host' p q K (f x) (f' x)) :
    ∀ xs : List γ, Twins host host' p q K (xs.mapM f) (xs.mapM f')
  | [] => by
    rw [List.mapM_nil, List.mapM_nil]
    exact .pure _
  | x :: xs => by
    rw [List.mapM_cons, List.mapM_cons]
    exact .bind (hf x) fun _ => .bind (mapM hf xs) fun _ => .pure _

theorem Twins.chain {k : Kind} (hk : K k) : ∀ (links : List (Link W)) (value : Artifact W k),
    Twins host host' p q K (runChain host k links p value) (runChain host' k links q value)
  | [], value => .pure value
  | link :: links, value => by
    rw [runChain_cons, runChain_cons]
    exact .bind (.apply link value hk) fun value => chain hk links value

theorem twins_configureResource (hs : p.Alike q) (hr : K .resource) (chain : List (Link W)) :
    Twins host host' p q K (configureResource host chain p) (configureResource host' chain q) := by
  refine .bind (.check _ hs.configuredResource) fun initial => ?_
  refine .bind (.chain hr chain _) fun customized => ?_
  exact .bind (.check _ rfl) fun _ => .bind (.emit _) fun _ => .pure _

theorem twins_customizeExporters (he : K .spanExporter) (chain : List (Link W)) :
    ∀ created : List (String × Exporter W.Exporter),
    Twins host host' p q K (customizeExporters host chain p created) (customizeExporters host' chain q created)
  | [] => .pure []
  | (_, e) :: created => .bind (.chain he chain (.proper e)) fun _ =>
    .bind (twins_customizeExporters he chain created) fun _ => .pure _

variable (loader : W.Loader) (hs : p.Alike q) (hn : host'.nameOf = host.nameOf)
include hn

theorem twins_loaded {group : String} (hg : group ∉ Names.merged) (known : Option (Selection.Table W)) :
    Twins host host' p q K (Selection.loaded host loader group known) (Selection.loaded host' loader group known) := by
  cases known with
  | some table => exact .pure table
  | none =>
    refine .bind (.load loader hg) fun plugins => .bind (.mapM (fun plugin => ?_) plugins) fun named => .pure _
    exact .bind (.check _ (congrFun hn plugin)) fun name => .pure _

theorem twins_createPropagators (hp : K .propagator) (chain : List (Link W)) :
    ∀ (names : List String) (known : Option (Selection.Table W)),
    Twins host host' p q K (createPropagators host loader chain p names known)
      (createPropagators host' loader chain q names known)
  | [], _ => .pure []
  | name :: names, known => by
    rw [createPropagators, createPropagators]
    split
    · refine .bind (.check _ rfl) fun made => .bind (.chain hp chain _) fun customized => ?_
      exact .bind (twins_createPropagators hp chain names known) fun _ => .pure _
    · refine .bind (twins_loaded loader hn (by decide) known) fun table => ?_
      refine .bind (.check _ rfl) fun plugin => .bind (.createPropagator plugin) fun made => ?_
      refine .bind (.chain hp chain _) fun customized => ?_
      exact .bind (twins_createPropagators hp chain names (some table)) fun _ => .pure _

include hs

theorem twins_createExporters (signal : Signal) : ∀ (names : List String) (known : Option (Selection.Table W)),
    Twins host host' p q K (createExporters host loader (exporterCatalogue W signal) p names known)
      (createExporters host' loader (exporterCatalogue W signal) q names known)
  | [], _ => .pure []
  | name :: names, known => by
    rw [createExporters, createExporters]
    cases hb : (exporterCatalogue W signal).builtin? name with
    | some make =>
      -- The options of an exporter are read from the snapshot, so the twins make the same one.
      have hm : builtinExporter? signal name = some make := by
        cases signal <;> exact hb
      refine .bind (.check _ (hs.builtinExporter hm)) fun e => .bind (.emit _) fun _ => ?_
      exact .bind (twins_createExporters signal names known) fun _ => .pure _
    | none =>
      refine .bind (twins_loaded loader hn (exporterCatalogue_group signal) known) fun table => ?_
      refine .bind (.check _ rfl) fun plugin => .bind (.createExporter plugin) fun e => .bind (.emit _) fun _ => ?_
      exact .bind (twins_createExporters signal names (some table)) fun _ => .pure _

theorem twins_configureExporters (signal : Signal) :
    Twins host host' p q K (configureExporters host loader (exporterCatalogue W signal) p)
      (configureExporters host' loader (exporterCatalogue W signal) q) := by
  refine .bind (.check _ (hs.names _ _ _)) fun names => ?_
  exact .bind (twins_createExporters loader hs hn signal names none) fun _ => .pure _

theorem twins_configurePropagators (hp : K .propagator) (chain : List (Link W)) :
    Twins host host' p q K (configurePropagators host loader chain p) (configurePropagators host' loader chain q) := by
  refine .bind (.check _ (hs.names _ _ _)) fun names => ?_
  exact .bind (twins_createPropagators loader hn hp chain names none) fun _ => .bind (.emit _) fun _ => .pure _

theorem twins_configureMeter (resource : Resource) :
    Twins host host' p q K (configureMeter host loader resource p) (configureMeter host' loader resource q) := by
  refine .bind (.check _ (hs.durationMillis? _)) fun asked => ?_
  refine .bind (twins_configureExporters loader hs hn .metrics) fun exporters => ?_
  exact .bind (.check _ rfl) fun _ => .bind (.emit _) fun _ => .pure _

theorem twins_configureTracer (hk : K .sampler) (he : K .spanExporter) (exporterChain samplerChain : List (Link W))
    (settings : Component W .tracerProvider) :
    Twins host host' p q K (configureTracer host loader p exporterChain samplerChain settings)
      (configureTracer host' loader q exporterChain samplerChain settings) := by
  refine .bind (.check _ hs.sampler) fun initial => .bind (.chain hk samplerChain _) fun sampler => ?_
  refine .bind (twins_configureExporters loader hs hn .traces) fun created => ?_
  refine .bind (twins_customizeExporters he exporterChain created.entries) fun customized => ?_
  exact .bind (.check _ (hs.processors _ _)) fun _ => .bind (.emit _) fun _ => .pure _

theorem twins_configureLogger (resource : Resource) :
    Twins host host' p q K (configureLogger host loader resource p) (configureLogger host' loader resource q) := by
  refine .bind (twins_configureExporters loader hs hn .logs) fun created => ?_
  exact .bind (.check _ (hs.processors _ _)) fun _ => .bind (.emit _) fun _ => .pure _

theorem twins_assembleFrom (hK : ∀ k, K k) :
    Twins host host' p q K (Bundle.under q <$> Builder.assembleFrom host loader p)
      (Builder.assembleFrom host' loader q) := by
  unfold Builder.assembleFrom
  simp only [map_bind, map_pure]
  refine .bind (.resolve .resource) fun chain => ?_
  refine .bind (twins_configureResource hs (hK _) chain) fun resource => ?_
  refine .bind (twins_configureMeter loader hs hn resource) fun meter => ?_
  refine .bind (.resolve .spanExporter) fun exporterChain => .bind (.resolve .sampler) fun samplerChain => ?_
  refine .bind (twins_configureTracer loader hs hn (hK _) (hK _) exporterChain samplerChain _) fun initial => ?_
  refine .bind (.resolve .tracerProvider) fun chain => .bind (.chain (hK _) chain _) fun customized => ?_
  refine .bind (.check _ rfl) fun settings => ?_
  refine .bind (twins_configureLogger loader hs hn resource) fun logger => ?_
  refine .bind (.resolve .propagator) fun chain => ?_
  exact .bind (twins_configurePropagators loader hs hn (hK _) chain) fun propagators => .pure _

end

theorem under_assembleFrom (host : Host W) (loader : W.Loader) (p : Properties) :
    Bundle.under p <$> Builder.assembleFrom host loader p = Builder.assembleFrom host loader p := by
  unfold Builder.assembleFrom
  simp only [map_bind, map_pure]
  rfl

theorem twins_self (host : Host W) (loader : W.Loader) (p : Properties) :
    Twins host host p p (fun _ => True) (Builder.assembleFrom host loader p) (Builder.assembleFrom host loader p) := by
  have h : Twins host host p p (fun _ => True) (Bundle.under p <$> Builder.assembleFrom host loader p)
      (Builder.assembleFrom host loader p) :=
    twins_assembleFrom loader (.refl p) rfl fun _ => trivial
  rwa [under_assembleFrom] at h

end

end Telemetry
