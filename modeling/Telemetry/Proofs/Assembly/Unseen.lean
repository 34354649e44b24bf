import Telemetry.Proofs.Assembly.Mirror
import Telemetry.Proofs.Assembly.Repetition

/-! # What a build does not see

Two builders are side by side: each has a snapshot and suppliers of its own, and outside code does for one
what it does for the other. Their builds take the same turns, apart from the snapshot and the suppliers in
them, and come to the same. So a build from a snapshot sees neither its blank settings nor any other source.
Only plugins could: they are handed the registry, with the suppliers in it. -/

namespace Telemetry

open Assembly

section
variable {W : Outside}

/-! ## Side by side -/

/-- Two scenes that have come equally far from two registries. -/
structure Abreast (r r' : Registry W) (s s' : Scene W) : Prop where
  own : s'.own = s.own
  journal : s'.journal = s.journal
  registry : ∃ added, s.registry = r.extend added ∧ s'.registry = r'.extend added

theorem Abreast.chains {r r' : Registry W} {s s' : Scene W} (h : Abreast r r' s s') (hr : r'.chains = r.chains) :
    s'.registry.chains = s.registry.chains := by
  obtain ⟨added, hs, hs'⟩ := h.registry
  funext k
  rw [hs, hs', Registry.chains_extend, Registry.chains_extend, hr]

/-- The turn as it is with a registry that is seen in another way. -/
def Turn.facing (see : Registry W → Registry W) : Turn W → Turn W
  | .asked (.contribute plugin) registry answer added => .asked (.contribute plugin) (see registry) answer added
  | t => t

theorem Turn.facing_id : Turn.facing (W := W) id = id := by
  funext t
  cases t with
  | checked c fault => rfl
  | asked r input answer added => cases r <;> rfl

def Mirror.abreast {r r' : Registry W} (hr : r'.chains = r.chains) (see : Registry W → Registry W) (q : Properties) :
    Mirror W where
  turn t := (t.under q).facing see
  clear _ := True
  alike := Abreast r r'
  checked _ _ := rfl
  chains h := h.chains hr
  said e h := ⟨h.own, congrArg (· ++ [e]) h.journal, h.registry⟩
  taken _ _ h := ⟨h.own, h.journal, h.registry⟩

def Assembly.calling {α : Type} (call : Foreign W α) (turn : Except Fault α → List (Addition W) → Turn W) :
    Assembly W α :=
  ExceptT.mk fun s =>
    let (answer, v) := call.run { own := s.own }
    (answer, ⟨v.own, s.registry.extend v.added, s.journal ++ v.events, s.turns ++ [turn answer v.added]⟩)

/-- One host does with a snapshot, and with a registry and whatever joins it, what another does with others. -/
structure Host.Agrees (host host' : Host W) (p q : Properties) (r r' : Registry W) : Prop where
  nameOf : host'.nameOf = host.nameOf
  typeName : host'.typeName = host.typeName
  load : host'.load = host.load
  contribute (plugin : W.Plugin) (added : List (Addition W)) :
    host'.contribute plugin (r'.extend added) = host.contribute plugin (r.extend added)
  apply (k : Kind) (link : Link W) (value : Artifact W k) : host'.apply k link value q = host.apply k link value p
  createExporter (plugin : W.Plugin) : host'.createExporter plugin q = host.createExporter plugin p
  createPropagator (plugin : W.Plugin) : host'.createPropagator plugin q = host.createPropagator plugin p

theorem Host.Agrees.refl (host : Host W) (p : Properties) (r : Registry W) : host.Agrees host p p r r :=
  ⟨rfl, rfl, rfl, fun _ _ => rfl, fun _ _ _ => rfl, fun _ => rfl, fun _ => rfl⟩

section
variable {host host' : Host W} {p q : Properties} {r r' : Registry W} {hr : r'.chains = r.chains}
  {see : Registry W → Registry W}

theorem shows_calling {α : Type} {call call' : Foreign W α} {t t' : Except Fault α → List (Addition W) → Turn W}
    {s s' : Scene W} (hs : Abreast r r' s s') (hc : call' = call)
    (ht : ∀ answer added, t' answer added = ((t answer added).under q).facing see) :
    (Mirror.abreast hr see q).Shows [t (call.run { own := s.own }).1 (call.run { own := s.own }).2.added] s'
      (run (calling call t) s) (run (calling call' t') s') := by
  subst hc
  have hrun : run (calling call' t') s' =
      (((call'.run { own := s.own }).1 : Except Fault α),
        ⟨(call'.run { own := s.own }).2.own, s'.registry.extend (call'.run { own := s.own }).2.added,
          s'.journal ++ (call'.run { own := s.own }).2.events,
          s'.turns ++ [t' (call'.run { own := s.own }).1 (call'.run { own := s.own }).2.added]⟩) := by
    rw [← hs.own]
    rfl
  rw [hrun]
  refine ⟨rfl, ?_, rfl, congrArg (· ++ _) hs.journal, ?_⟩
  · rw [List.map_singleton, ht]
    rfl
  · obtain ⟨before, he, he'⟩ := hs.registry
    refine ⟨before ++ (call'.run { own := s.own }).2.added, ?_, ?_⟩
    · rw [Registry.extend_append, ← he]
      rfl
    · rw [Registry.extend_append, ← he']

theorem mirrors_calling {α : Type} {call call' : Foreign W α} {t t' : Except Fault α → List (Addition W) → Turn W}
    (hc : call' = call) (ht : ∀ answer added, t' answer added = ((t answer added).under q).facing see) :
    (Mirror.abreast hr see q).Mirrors (calling call t) (calling call' t') :=
  fun _ => ⟨_, rfl, fun _ _ hs => shows_calling hs hc ht⟩

theorem Host.Agrees.reflects (h : host.Agrees host' p q r r') : (Mirror.abreast hr see q).Reflects host host' p q where
  load loader group := mirrors_calling (congrFun (congrFun h.load loader) group) fun _ _ => rfl
  apply k link value := mirrors_calling (h.apply k link value) fun _ _ => rfl
  createExporter plugin := mirrors_calling (h.createExporter plugin) fun _ _ => rfl
  createPropagator plugin := mirrors_calling (h.createPropagator plugin) fun _ _ => rfl

theorem mirrors_mergeConfigurer (h : host.Agrees host' p q r r') (plugin : W.Plugin) :
    (Mirror.abreast hr see q).Mirrors (Discovery.mergeConfigurer host plugin) (Discovery.mergeConfigurer host' plugin) := by
  intro s
  refine ⟨[], (List.append_nil _).symm, fun _ s' hs => ?_⟩
  refine ⟨rfl, (List.append_nil _).symm, hs.own, ?_, ?_⟩
  · exact congrArg₂ (fun journal name => journal ++ [.configurerMerged name]) hs.journal (congrFun h.typeName plugin)
  · obtain ⟨added, he, he'⟩ := hs.registry
    refine ⟨added ++ [.customizer .tracerProvider (.configurer plugin)], ?_, ?_⟩
    · rw [Registry.extend_append, ← he]
      rfl
    · rw [Registry.extend_append, ← he']
      rfl

section
variable (hsee : ∀ added, see (r.extend added) = r'.extend added)
include hsee

theorem mirrors_contribute (h : host.Agrees host' p q r r') (plugin : W.Plugin) :
    (Mirror.abreast hr see q).Mirrors (get >>= fun s => ask host (.contribute plugin) s.registry)
      (get >>= fun s => ask host' (.contribute plugin) s.registry) := by
  intro s
  refine ⟨_, rfl, fun _ s' hs => ?_⟩
  obtain ⟨before, he, he'⟩ := hs.registry
  refine shows_calling hs ?_ fun answer added => ?_
  · show host'.contribute plugin s'.registry = host.contribute plugin s.registry
    rw [he, he', h.contribute]
  · show Turn.asked (.contribute plugin) s'.registry answer added = .asked (.contribute plugin) (see s.registry) answer added
    rw [he, he', hsee]

theorem mirrors_mergeProvider (h : host.Agrees host' p q r r') (plugin : W.Plugin) :
    (Mirror.abreast hr see q).Mirrors (Discovery.mergeProvider host plugin) (Discovery.mergeProvider host' plugin) := by
  unfold Discovery.mergeProvider
  rw [h.typeName, ← bind_assoc, ← bind_assoc]
  exact .bind (mirrors_contribute hsee h plugin) fun _ => .emit _

theorem mirrors_merge (h : host.Agrees host' p q r r') (loader : W.Loader) :
    (Mirror.abreast hr see q).Mirrors (Discovery.merge host loader) (Discovery.merge host' loader) := by
  refine .bind (h.reflects.load loader _) fun configurers => ?_
  refine .bind (.forM (mirrors_mergeConfigurer h) configurers) fun _ => ?_
  exact .bind (h.reflects.load loader _) fun providers => .forM (mirrors_mergeProvider hsee h) providers

end

/-! ## Builds -/

def Builder.given (b : Builder W) (p : Properties) : Builder W := { b with properties := some p }

theorem Builder.setProperties_given (b : Builder W) (p : Properties) : b.setProperties (some p) = .ok (b.given p) :=
  rfl

variable (hr) in
theorem mirrors_assemble (hsee : ∀ added, see (r.extend added) = r'.extend added) (h : host.Agrees host' p q r r')
    (hs : p.Alike q) (b : Builder W) (process : Source) :
    (Mirror.abreast hr see q).Mirrors (Bundle.under q <$> (b.given p).assemble host)
      (({ b.given q with registry := r', processProperties := process } : Builder W).assemble host') := by
  unfold Builder.given
  rw [Builder.assemble_eq, Builder.assemble_eq, map_bind]
  refine .bind ?_ fun _ => ?_
  · cases b.pluginsMerged with
    | true => exact .pure ()
    | false => exact mirrors_merge hsee h b.loader
  · exact (twins_assembleFrom (K := fun _ => True) b.loader hs h.nameOf fun _ => trivial).mirrors h.reflects

end

theorem Assembly.run_map {α β : Type} (f : α → β) (act : Assembly W α) (s : Scene W) :
    run (f <$> act) s = ((run act s).1.map f, (run act s).2) := by
  rw [map_eq_pure_bind, run_bind]
  cases run act s with
  | mk x s' => cases x <;> rfl

namespace Builder

/-- A build looks the same side by side, where its bundle keeps the snapshot of the other side, and plugins are
handed the registry of the other side. -/
structure Built.Matches (q : Properties) (r r' : Registry W) (see : Registry W → Registry W) (built other : Built W) :
    Prop where
  outcome : other.outcome = built.outcome.map (Prod.map id (Bundle.under q))
  turns : other.turns = built.turns.map fun t => (t.under q).facing see
  own : other.own = built.own
  estate : other.estate = built.estate
  registry : ∃ added, built.builder.registry = r.extend added ∧ other.builder.registry = r'.extend added

theorem matches_of_agrees {host host' : Host W} {p q : Properties} {b : Builder W} {r : Registry W}
    {see : Registry W → Registry W} (h : host.Agrees host' p q b.registry r) (hs : p.Alike q)
    (hr : r.chains = b.registry.chains) (hsee : ∀ added, see (b.registry.extend added) = r.extend added)
    (process : Source) (own : W.State) (estate : Estate) :
    Built.Matches q b.registry r see ((b.given p).build host own estate)
      (({ b.given q with registry := r, processProperties := process } : Builder W).build host' own estate) := by
  obtain ⟨ts, ht, hm⟩ := mirrors_assemble hr hsee h hs b process { own, registry := b.registry }
  obtain ⟨ho, hts, hown, hj, hg⟩ := hm (fun _ _ => trivial) { own, registry := r } ⟨rfl, rfl, [], rfl, rfl⟩
  rw [run_map] at ht ho hown hj hg
  have hb : (b.given p).registry = b.registry := rfl
  unfold build
  rw [hb]
  generalize run ((b.given p).assemble host) { own, registry := b.registry } = x at *
  generalize run (assemble host' { b.given q with registry := r, processProperties := process })
    { own, registry := r } = x' at *
  obtain ⟨result, s⟩ := x
  obtain ⟨result', s'⟩ := x'
  obtain rfl : ts = s.turns := ht.symm
  obtain rfl : result' = result.map (Bundle.under q) := ho
  have he : estate.log s'.journal = estate.log s.journal := congrArg estate.log hj
  cases result with
  | error f => exact ⟨rfl, hts, hown, he, hg⟩
  | ok bundle =>
    refine ⟨?_, hts, hown, ?_, hg⟩
    · simp only [Except.map, he]
      rfl
    · simp only [Except.map, he]
      rfl

/-! ## Other sources -/

end Builder

namespace Builder

end Builder

end

/-! ### Plugins that look -/

/-- The plugin looks at the registry before it registers a customizer and a supplier. No source answers. -/
def Host.peeking (look : Registry .tallied → Bool) : Host .tallied :=
  { Host.tallied with
    supply := fun _ => throw (.raised "RuntimeError" "no settings" false)
    environment := throw (.raised "RuntimeError" "no environment" false)
    contribute := fun _ registry => modify fun v => { v with
      added := (if look registry then [.customizer .resource (.customizer ())] else []) ++ [.supplier ()] } }

namespace Builder

def ofCustomizer : Builder .tallied :=
  { loader := (), registry := { chains := fun k => if k = .resource then [.customizer ()] else [] } }

/-- A plugin that looks for suppliers lets a build see them. -/
theorem suppliers_seen :
    let host := Host.peeking fun r => r.suppliers.length == 1
    let built := (ofPlugin.given ⟨.empty⟩).build host (0 : Nat) {}
    let other := ({ ofPlugin.given ⟨.empty⟩ with registry := { suppliers := [()] } } : Builder .tallied).build host
      (0 : Nat) {}
    built.builder.registry.count .resource = 0 ∧ other.builder.registry.count .resource = 1 := by
  decide +kernel

end Builder

section
variable {W : Outside}

/-! ## Blank settings -/

def Properties.ReadsLike (p q : Properties) : Prop :=
  ∀ kind key default, q.read kind key default = p.read kind key default

/-- Outside code that sees of a snapshot only what its settings read as. -/
structure Host.ReadsTyped (host : Host W) : Prop where
  customize {p q : Properties} (h : p.ReadsLike q) (k : Kind) (c : W.Customizer) (value : Artifact W k) :
    host.customize k c value q = host.customize k c value p
  configure {p q : Properties} (h : p.ReadsLike q) (plugin : W.Plugin) (value : Artifact W .tracerProvider) :
    host.configure plugin value q = host.configure plugin value p
  createExporter {p q : Properties} (h : p.ReadsLike q) (plugin : W.Plugin) :
    host.createExporter plugin q = host.createExporter plugin p
  createPropagator {p q : Properties} (h : p.ReadsLike q) (plugin : W.Plugin) :
    host.createPropagator plugin q = host.createPropagator plugin p

theorem Host.ReadsTyped.agrees {host : Host W} (h : host.ReadsTyped) {p q : Properties} (hs : p.Alike q)
    (r : Registry W) : host.Agrees host p q r r where
  nameOf := rfl
  typeName := rfl
  load := rfl
  contribute _ _ := rfl
  apply k link value := by
    cases link with
    | customizer c => cases k <;> exact h.customize hs.read _ c value
    | configurer plugin =>
      cases k with
      | tracerProvider => exact h.configure hs.read plugin value
      | _ => rfl
  createExporter := h.createExporter hs.read
  createPropagator := h.createPropagator hs.read

/-- A snapshot reads the same without its blank settings, whatever is read, and so do builds from it that
read nothing but typed settings: they take the same turns, with one snapshot in place of the other, and come
to the same. -/
theorem Builder.blanks_unseen (host : Host W) (hh : host.ReadsTyped) (b : Builder W) (p : Properties) (own : W.State)
    (estate : Estate) :
    let q := p.withoutBlanks
    let built := (b.given p).build host own estate
    let other := (b.given q).build host own estate
    (∀ kind key default, q.read kind key default = p.read kind key default) ∧
      other.outcome = built.outcome.map (Prod.map id (Bundle.under q)) ∧ other.turns = built.turns.map (Turn.under q) ∧
      other.own = built.own ∧ other.estate = built.estate ∧ other.builder.registry = built.builder.registry := by
  intro q built other
  have hs : p.Alike q := p.alike_withoutBlanks
  have hm : Built.Matches q b.registry b.registry id built other :=
    matches_of_agrees (hh.agrees hs b.registry) hs rfl (fun _ => rfl) b.processProperties own estate
  obtain ⟨added, he, he'⟩ := hm.registry
  have hturns : other.turns = built.turns.map (Turn.under q) := by
    have h := hm.turns
    rwa [Turn.facing_id] at h
  exact ⟨hs.read, hm.outcome, hturns, hm.own, hm.estate, he'.trans he.symm⟩

end

/-! ### Customizers that read -/

def Outside.reading : Outside where
  Customizer := Reading × String
  Supplier := Empty
  Plugin := Empty
  Loader := Unit
  Exporter := Empty
  IdGenerator := Empty
  Thing := Empty
  State := List Datum

def Host.reading : Host .reading where
  customize _ c value p := do
    let read ← ExceptT.mk (pure (p.read c.1 c.2 none))
    modify fun v => { v with own := List.concat v.own read }
    return value
  supply := nofun
  environment := pure .empty
  load _ _ := pure []
  typeName := nofun
  nameOf := nofun
  contribute := nofun
  configure := nofun
  createExporter := nofun
  createPropagator := nofun
  channel _ := .improper "Empty"
  metricChannel _ := .improper "Empty"
  traceId _ := pure 0

theorem Host.readsTyped_reading : Host.reading.ReadsTyped where
  customize h k c value := by
    simp only [Host.reading, h c.1 c.2 none]
  configure _ plugin _ := nomatch plugin
  createExporter _ plugin := nomatch plugin
  createPropagator _ plugin := nomatch plugin

namespace Builder

def blanks : Properties := ⟨.ofList [("retries", some "  "), ("delay", none)]⟩

def ofReaders : Builder .reading where
  loader := ()
  registry :=
    { chains := fun
        | .resource => [.customizer (.whole, "retries"), .customizer (.duration, "delay")]
        | _ => [] }

theorem withoutBlanks_blanks : blanks.withoutBlanks = ⟨.empty⟩ := by
  have h : blanks.withoutBlanks.settings.entries = [] := by decide +kernel
  exact congrArg Properties.mk ((OrderedMap.mk.injEq ..).mpr h)

theorem ofReaders_builds :
    ((ofReaders.given blanks.withoutBlanks).build Host.reading [] {}).outcome.isOk = true := by
  rw [withoutBlanks_blanks]
  decide +kernel

theorem blanks_unseen_reading :
    Host.reading.ReadsTyped ∧ blanks.settings.size = 2 ∧ blanks.withoutBlanks.settings.size = 0 ∧
      ((ofReaders.given blanks).build Host.reading [] {}).outcome.isOk = true ∧
      ((ofReaders.given blanks.withoutBlanks).build Host.reading [] {}).outcome =
        ((ofReaders.given blanks).build Host.reading [] {}).outcome.map
          (Prod.map id (Bundle.under blanks.withoutBlanks)) ∧
      ((ofReaders.given blanks.withoutBlanks).build Host.reading [] {}).turns =
        ((ofReaders.given blanks).build Host.reading [] {}).turns.map (Turn.under blanks.withoutBlanks) ∧
      ((ofReaders.given blanks.withoutBlanks).build Host.reading [] {}).own =
        ((ofReaders.given blanks).build Host.reading [] {}).own := by
  obtain ⟨-, ho, ht, hown, -⟩ := blanks_unseen Host.reading Host.readsTyped_reading ofReaders blanks [] {}
  refine ⟨Host.readsTyped_reading, by decide +kernel, by decide +kernel, ?_, ho, ht, hown⟩
  have hb := ofReaders_builds
  rw [ho] at hb
  generalize ((ofReaders.given blanks).build Host.reading [] {}).outcome = outcome at hb ⊢
  cases outcome with
  | ok made => rfl
  | error f => cases hb

end Builder

end Telemetry
