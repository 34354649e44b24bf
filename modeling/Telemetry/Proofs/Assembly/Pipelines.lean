import Telemetry.Proofs.Assembly.Points
import Telemetry.Proofs.Processor.Arrangement

/-! # The pipelines of a bundle

What a build that succeeds has done, action by action, up to its log processors. From this come the
exporters and processors of its bundle, and what these deliver. -/

namespace Telemetry

open Assembly

section
variable {W : Outside}

/-! ## Successful stages -/

section
variable {host : Host W} {loader : W.Loader} {p : Properties} {s s' : Scene W}

structure Tracing (host : Host W) (loader : W.Loader) (p : Properties) (exporterChain samplerChain : List (Link W))
    (s : Scene W) (configured : List (Processor W.Exporter W.Thing)) where
  sampled : Scene W
  created : Scene W
  customized : Scene W
  sampler : Customized W.Thing Sampler
  made : OrderedMap String (Exporter W.Exporter)
  exporters : List (String × Customized W.Thing (Exporter W.Exporter))
  sample : run (check .sampler (Sampler.ofProperties p) >>= fun initial =>
    runChain host .sampler samplerChain p (.proper initial)) s = (.ok sampler, sampled)
  create : run (configureExporters host loader (exporterCatalogue W .traces) p) sampled = (.ok made, created)
  customize : run (customizeExporters host exporterChain p made.entries) created = (.ok exporters, customized)
  configure : Processor.configure .traces (.ofList exporters) (some p) = .ok configured

theorem processors_addProcessors (ps : List (Processor W.Exporter W.Thing))
    (settings : TracerSettings W.Exporter W.IdGenerator W.Thing) :
    (ps.foldl TracerSettings.addProcessor settings).processors = settings.processors ++ ps := by
  induction ps generalizing settings with
  | nil => exact (List.append_nil _).symm
  | cons p ps ih =>
    rw [List.foldl_cons, ih]
    exact List.append_assoc ..

theorem tracing_of_ok {exporterChain samplerChain : List (Link W)} {resource : Resource}
    {settings : TracerSettings W.Exporter W.IdGenerator W.Thing}
    (h : run (configureTracer host loader p exporterChain samplerChain (.ofResource resource)) s = (.ok settings, s')) :
    Nonempty (Tracing host loader p exporterChain samplerChain s settings.processors) := by
  unfold configureTracer at h
  obtain ⟨initial, s₁, h₁, h⟩ := ok_of_bind h
  obtain ⟨sampler, s₂, h₂, h⟩ := ok_of_bind h
  obtain ⟨made, s₃, h₃, h⟩ := ok_of_bind h
  obtain ⟨exporters, s₄, h₄, h⟩ := ok_of_bind h
  obtain ⟨processors, s₅, h₅, h⟩ := ok_of_bind h
  obtain ⟨-, s₆, -, h⟩ := ok_of_bind h
  cases h
  refine ⟨⟨s₂, s₃, s₄, sampler, made, exporters, (run_bind_ok h₁ _).trans h₂, h₃, h₄, ?_⟩⟩
  rw [ok_of_check h₅, processors_addProcessors]
  rfl

theorem names_customizeExporters {chain : List (Link W)} : ∀ {created : List (String × Exporter W.Exporter)} {s s' : Scene W}
    {customized : List (String × Customized W.Thing (Exporter W.Exporter))},
    run (customizeExporters host chain p created) s = (.ok customized, s') →
      customized.map Prod.fst = created.map Prod.fst
  | [], s, s', customized, h => by
    cases h
    rfl
  | (name, e) :: created, s, s', customized, h => by
    obtain ⟨e', s₁, -, h⟩ := ok_of_bind h
    obtain ⟨rest, s₂, hr, h⟩ := ok_of_bind h
    cases h
    exact congrArg (name :: ·) (names_customizeExporters hr)

theorem names_configureExporters {signal : Signal} {made : OrderedMap String (Exporter W.Exporter)}
    (h : run (configureExporters host loader (exporterCatalogue W signal) p) s = (.ok made, s')) :
    made.keys = (Offering.exporters signal : Offering W).names p :=
  (tracks_configureExporters host signal p loader s).ok h

theorem counters_configureMeter {resource : Resource} {meter : MeterProvider W.Exporter}
    (h : run (configureMeter host loader resource p) s = (.ok meter, s')) : meter.counters = {} := by
  unfold configureMeter at h
  obtain ⟨asked, s₁, -, h⟩ := ok_of_bind h
  obtain ⟨exporters, s₂, -, h⟩ := ok_of_bind h
  obtain ⟨readers, s₃, -, h⟩ := ok_of_bind h
  obtain ⟨-, s₄, -, h⟩ := ok_of_bind h
  cases h
  rfl

theorem Customized.proper_of_use {τ α : Type} {member : String} {c : Customized τ α} {a : α} (h : c.use member = .ok a) :
    c = .proper a := by
  cases c with
  | proper b => cases h; rfl
  | stray s => cases h

end

/-! ## Successful builds -/

/-- What a build has done that made a bundle, action by action. -/
structure Making (host : Host W) (b : Builder W) (own : W.State) (bundle : Bundle W) where
  merged : Scene W
  settled : Scene W
  resourced : Scene W
  metered : Scene W
  traced : Scene W
  customized : Scene W
  built : Scene W
  recording : Scene W
  initial : TracerSettings W.Exporter W.IdGenerator W.Thing
  settings : TracerSettings W.Exporter W.IdGenerator W.Thing
  records : OrderedMap String (Exporter W.Exporter)
  merge : run (unless b.pluginsMerged do Discovery.merge host b.loader) { own, registry := b.registry } = (.ok (), merged)
  settle : run (b.snapshot host) merged = (.ok bundle.properties, settled)
  resource : run (configureResource host (settled.registry.resolve .resource) bundle.properties) settled =
    (.ok bundle.resource, resourced)
  meter : run (configureMeter host b.loader bundle.resource bundle.properties) resourced = (.ok bundle.meter, metered)
  trace : run (configureTracer host b.loader bundle.properties (metered.registry.resolve .spanExporter)
    (metered.registry.resolve .sampler) (.ofResource bundle.resource)) metered = (.ok initial, traced)
  tracing : Tracing host b.loader bundle.properties (metered.registry.resolve .spanExporter)
    (metered.registry.resolve .sampler) metered initial.processors
  customize : run (runChain host .tracerProvider (traced.registry.resolve .tracerProvider) bundle.properties
    (.proper initial)) traced = (.ok (.proper settings), customized)
  build : run (check .settings (.ok settings)) customized = (.ok settings, built)
  tracer : bundle.tracer = settings.build
  record : run (configureExporters host b.loader (exporterCatalogue W .logs) bundle.properties) built =
    (.ok records, recording)
  configure : Processor.configure .logs (.ofList (records.entries.map fun e => (e.1, .proper e.2)))
    (some bundle.properties) = .ok bundle.logger.processors

namespace Making
variable {host : Host W} {b : Builder W} {own : W.State} {bundle : Bundle W} (m : Making host b own bundle)

def spanExporters : Exporters W := .ofList m.tracing.exporters

def logExporters : Exporters W := .ofList (m.records.entries.map fun e => (e.1, .proper e.2))

theorem entries_spanExporters : m.spanExporters.entries = m.tracing.exporters := by
  refine OrderedMap.entries_ofList ?_
  rw [names_customizeExporters m.tracing.customize]
  exact m.tracing.made.distinct

theorem keys_spanExporters : m.spanExporters.keys = (Offering.exporters .traces : Offering W).names bundle.properties := by
  rw [OrderedMap.keys, m.entries_spanExporters, names_customizeExporters m.tracing.customize]
  exact names_configureExporters m.tracing.create

theorem keys_logExporters : m.logExporters.keys = (Offering.exporters .logs : Offering W).names bundle.properties := by
  have hn : (m.records.entries.map fun e => (e.1, (.proper e.2 : Customized W.Thing (Exporter W.Exporter)))).map Prod.fst = m.records.keys :=
    List.map_map ..
  rw [logExporters, OrderedMap.keys, OrderedMap.entries_ofList (hn ▸ m.records.distinct), hn]
  exact names_configureExporters m.record

theorem processors_tracer : bundle.tracer.processors = m.settings.processors := by
  rw [m.tracer]
  rfl

end Making

theorem making_of_ok {host : Host W} {b : Builder W} {own : W.State} {bundle : Bundle W} {s : Scene W}
    (h : run (b.assemble host) { own, registry := b.registry } = (.ok bundle, s)) : Nonempty (Making host b own bundle) := by
  rw [Builder.assemble_eq] at h
  obtain ⟨_, merged, hmerge, h⟩ := ok_of_bind h
  obtain ⟨p, settled, hsettle, h⟩ := ok_of_bind h
  unfold Builder.assembleFrom at h
  replace h := ok_of_resolve h
  obtain ⟨resource, resourced, hresource, h⟩ := ok_of_bind h
  obtain ⟨meter, metered, hmeter, h⟩ := ok_of_bind h
  replace h := ok_of_resolve h
  replace h := ok_of_resolve h
  obtain ⟨initial, traced, htrace, h⟩ := ok_of_bind h
  replace h := ok_of_resolve h
  obtain ⟨custom, customized, hcustom, h⟩ := ok_of_bind h
  obtain ⟨settings, built, hbuild, h⟩ := ok_of_bind h
  dsimp only at h
  obtain ⟨logger, s₁, hlogger, h⟩ := ok_of_bind h
  replace h := ok_of_resolve h
  obtain ⟨propagators, s₂, -, h⟩ := ok_of_bind h
  cases h
  unfold configureLogger at hlogger
  obtain ⟨records, recording, hrecord, hlogger⟩ := ok_of_bind hlogger
  obtain ⟨processors, s₃, hprocessors, hlogger⟩ := ok_of_bind hlogger
  obtain ⟨_, s₄, -, hlogger⟩ := ok_of_bind hlogger
  cases hlogger
  obtain ⟨tracing⟩ := tracing_of_ok htrace
  obtain rfl := Customized.proper_of_use (ok_of_check hbuild)
  exact ⟨⟨merged, settled, resourced, metered, traced, customized, built, recording, initial, settings, records, hmerge,
    hsettle, hresource, hmeter, htrace, tracing, hcustom, hbuild, rfl, hrecord, ok_of_check hprocessors⟩⟩

/-! ## Recording -/

namespace TracerProvider
variable {host : Host W} (t : TracerProvider W.Exporter W.IdGenerator W.Thing)

def ended (traceId : Nat) (name : String) (attributes : List (String × Datum)) : List Item :=
  match t.item? traceId name attributes with
  | .ok (some item) => [item]
  | _ => []

theorem run_recordSpan (name : String) (attributes : List (String × Datum)) (s : Pipeline W) :
    (t.recordSpan host name attributes).run s = StateT.run (m := Id)
      (match t.item? ((host.traceId t.idGenerator).run s.own).1 name attributes with
      | .error f => pure (t, .error f)
      | .ok none => pure (t, .ok ())
      | .ok (some item) => do
        let (processors, result) ← Processor.receiveAll host item t.processors
        return ({ t with processors }, result))
      { s with own := ((host.traceId t.idGenerator).run s.own).2 } :=
  rfl

/-- Recording a span begins a run. Drawing its trace id is something else that happens. -/
theorem runs_recordSpan {idle : Pipeline W → Pipeline W → Prop} {name : String} {attributes : List (String × Datum)}
    {s s' s'' : Pipeline W} {t' : TracerProvider W.Exporter W.IdGenerator W.Thing} {r : Except Fault Unit}
    {items : List Item} {ps : List (Processor W.Exporter W.Thing)}
    (hd : idle s { s with own := ((host.traceId t.idGenerator).run s.own).2 }) (hf : ∀ p ∈ t.processors, p.HasRoom)
    (h : (t.recordSpan host name attributes).run s = ((t', r), s')) (hr : Runs host idle s' t'.processors items s'' ps) :
    Runs host idle s t.processors
      (t.ended ((host.traceId t.idGenerator).run s.own).1 name attributes ++ items) s'' ps := by
  refine .idles hd ?_
  rw [run_recordSpan] at h
  unfold ended
  generalize t.item? ((host.traceId t.idGenerator).run s.own).1 name attributes = item? at h ⊢
  cases item? with
  | error f =>
    cases h
    exact hr
  | ok item? =>
    cases item? with
    | none =>
      cases h
      exact hr
    | some item =>
      cases h
      exact .ends hf rfl hr

/-- Spans are recorded one after the other, and after each of them workers export some of what has waited longest.
What has ended comes back as well. -/
def recordEach (host : Host W) (n : Nat) : List (String × List (String × Datum)) →
    TracerProvider W.Exporter W.IdGenerator W.Thing →
      Live W (TracerProvider W.Exporter W.IdGenerator W.Thing × List Item)
  | [], t => return (t, [])
  | (name, attributes) :: spans, t => do
    let ended := t.ended ((host.traceId t.idGenerator).run (← get).own).1 name attributes
    let (t, _) ← t.recordSpan host name attributes
    let (processors, _) ← Processor.overAll (fun _ => true) () (Processor.work host n) t.processors
    let (t, items) ← recordEach host n spans { t with processors }
    return (t, ended ++ items)

variable (host) in
theorem all_hasWorker_recordSpan (name : String) (attributes : List (String × Datum)) (s : Pipeline W) :
    ((t.recordSpan host name attributes).run s).1.1.processors.all Processor.hasWorker =
      t.processors.all Processor.hasWorker := by
  rw [run_recordSpan]
  generalize t.item? ((host.traceId t.idGenerator).run s.own).1 name attributes = item?
  cases item? with
  | error f => rfl
  | ok item? =>
    cases item? with
    | none => rfl
    | some item => exact Processor.all_hasWorker_overAll (Processor.keepsWorkers_receive host item) t.processors _

/-- Where there are workers, any spans can be recorded. -/
theorem runs_recordEach {idle : Pipeline W → Pipeline W → Prop}
    (hd : ∀ g s, idle s { s with own := ((host.traceId g).run s.own).2 }) (n : Nat) :
    ∀ (spans : List (String × List (String × Datum))) (t : TracerProvider W.Exporter W.IdGenerator W.Thing)
      (s : Pipeline W), t.processors.all Processor.hasWorker = true →
      Runs host idle s t.processors ((t.recordEach host n spans).run s).1.2 ((t.recordEach host n spans).run s).2
        ((t.recordEach host n spans).run s).1.1.processors
  | [], t, s, _ => .nil s t.processors
  | (name, attributes) :: spans, t, s, h => by
    have hroom : ∀ p ∈ t.processors, p.HasRoom := fun p hp => Processor.hasRoom_of_hasWorker (List.all_eq_true.mp h p hp)
    let recorded := (t.recordSpan host name attributes).run s
    let worked := (Processor.overAll (fun _ => true) () (Processor.work host n) recorded.1.1.processors).run recorded.2
    have hrecorded := (all_hasWorker_recordSpan host t name attributes s).trans h
    have hworked : worked.1.1.all Processor.hasWorker = true :=
      (Processor.all_hasWorker_overAll (Processor.keepsWorkers_work host n) _ _).trans hrecorded
    exact runs_recordSpan t (hd _ s) hroom rfl (.works (n := n) rfl
      (runs_recordEach hd n spans { recorded.1.1 with processors := worked.1.1 } worked.2 hworked))

end TracerProvider

namespace Builder

/-- The exporters of a bundle are made for the configured names, each once. What ends on its tracer provider
was handed to each span exporter, once and in order, after a flush, provided that the chain of span exporters
keeps them apart and the chain of the tracer provider retains the configured processors; and what ends on
its logger provider was handed to each log exporter. The counters, which start from nothing, count just what
the batch processors export. -/
theorem build_delivers (host : Host W) (b : Builder W) (own : W.State) (estate : Estate) {n : Nat} {bundle : Bundle W}
    (h : (b.build host own estate).outcome = .ok (n, bundle)) :
    bundle.meter.counters = {} ∧ ∃ m : Making host b own bundle,
      m.spanExporters.keys = (Offering.exporters .traces : Offering W).names bundle.properties ∧
      (m.spanExporters.Distinct → Retains host m.spanExporters m.initial.processors bundle.tracer.processors →
        Delivers host .traces m.spanExporters bundle.tracer.processors) ∧
      m.logExporters.keys = (Offering.exporters .logs : Offering W).names bundle.properties ∧
      (m.logExporters.Distinct → Delivers host .logs m.logExporters bundle.logger.processors) := by
  obtain ⟨m⟩ := making_of_ok (Prod.ext (ok_of_outcome h) rfl)
  refine ⟨counters_configureMeter m.meter, m, m.keys_spanExporters, ?_, m.keys_logExporters, ?_⟩
  · exact fun hd hr => delivers_of_configure m.tracing.configure hd hr
  · exact fun hd => delivers_of_configure m.configure hd (Retains.refl ..)

end Builder

end

/-! ## Exporters behind exporters -/

abbrev Deliveries := List (String × Item)

namespace Deliveries

def note (name : String) (batch : List Item) (delivered : Deliveries) : Deliveries :=
  delivered ++ batch.map fun item => (name, item)

def of (name : String) (delivered : Deliveries) : List Item :=
  delivered.filterMap fun x => if x.1 = name then some x.2 else none

theorem of_note_self (name : String) (batch : List Item) (delivered : Deliveries) :
    of name (note name batch delivered) = of name delivered ++ batch := by
  simp [of, note]

theorem of_note_of_ne {name name' : String} (h : name' ≠ name) (batch : List Item) (delivered : Deliveries) :
    of name (note name' batch delivered) = of name delivered := by
  simp [of, note, h]

end Deliveries

structure Proceedings where
  calls : Nat := 0
  delivered : Deliveries := []

abbrev Outside.named : Outside where
  Customizer := Unit
  Supplier := Unit
  Plugin := String
  Loader := Unit
  Exporter := String
  IdGenerator := Empty
  Thing := Empty
  State := Proceedings

namespace Named

def wrapped : Exporter String → Exporter String
  | .otlp _ _ => .outside "wrapped otlp"
  | .console _ => .outside "wrapped logging"
  | .outside name => .outside ("wrapped " ++ name)

def audit : Processor Outside.named.Exporter Outside.named.Thing := .immediate (.proper (.outside "audit"))

/-- The exporters before the last one report something else than success, and the one for audits raises. -/
def answer (name : String) : Except Fault Outcome :=
  if name = "audit" then .error (.raised "RuntimeError" "no audit" false)
  else if name = "wrapped logging" then .ok .failure
  else if name = "wrapped otlp" then .ok (.other .null)
  else .ok .success

def customized : (k : Kind) → Artifact .named k → Artifact .named k
  | .resource, .proper r => .proper (r.merge (.ofAttributes [("host.name", .text "named")]))
  | .spanExporter, .proper e => .proper (wrapped e)
  | .tracerProvider, .proper settings => .proper (settings.addProcessor audit)
  | _, value => value

/-- Names are repeated or blank, and stand for what is built in and for plugins. After the first call there are none. -/
def supplied : Nat → Source
  | 0 => .ofList [(Names.tracesExporter, some " otlp , logging,, memory ,otlp"),
    (Names.logsExporter, some "archive,logging , archive, memory"), (Names.metricsExporter, some "none")]
  | _ => .ofList [(Names.tracesExporter, some "none")]

end Named

def Host.named : Host .named where
  customize k _ value _ := pure (Named.customized k value)
  supply _ := do
    let v ← get
    set { v with own := { v.own with calls := v.own.calls + 1 } }
    return Named.supplied v.own.calls
  environment := pure .empty
  load _ group := pure (if group = Names.spanExporters then ["memory"]
    else if group = Names.logExporters then ["memory", "archive"] else [])
  typeName _ := "Plugin"
  nameOf plugin := .ok plugin
  contribute _ _ := pure ()
  configure _ value _ := pure value
  createExporter plugin _ := pure (.outside plugin)
  createPropagator _ _ := pure .baggage
  channel
    | .outside name =>
      { send := fun batch => ExceptT.mk fun own =>
        (Named.answer name, { own with delivered := Deliveries.note name batch own.delivered })
        flush := some fun _ => pure (.bool true)
        close := pure () }
    | _ => { send := fun _ => pure .success, flush := some fun _ => pure (.bool true), close := pure () }
  metricChannel _ := .improper "Exporter"
  traceId _ := pure 0

namespace Named

theorem watches (name : String) : Host.named.Watches (.outside name) (fun own => Deliveries.of name own.delivered) where
  sent batch own := Deliveries.of_note_self name batch own.delivered
  others e hne batch own := by
    cases e with
    | outside name' => exact Deliveries.of_note_of_ne (fun h => hne (congrArg _ h)) batch own.delivered
    | _ => rfl

theorem stays (name : String) : Host.named.Stays (.outside name) := by
  intro batch own f h
  have h : answer name = .error f := h
  unfold answer at h
  split at h
  · cases h
    rfl
  · split at h
    · cases h
    · split at h <;> cases h

theorem returns {e : Exporter String} (h : e ≠ .outside "audit") : Host.named.Returns e := by
  intro batch own
  cases e with
  | outside name =>
    have hname : name ≠ "audit" := fun hn => h (congrArg _ hn)
    have ha : ∃ outcome, answer name = .ok outcome := by
      unfold answer
      rw [if_neg hname]
      split
      · exact ⟨_, rfl⟩
      · split <;> exact ⟨_, rfl⟩
    obtain ⟨outcome, ha⟩ := ha
    exact ⟨outcome, _, Prod.ext ha rfl⟩
  | _ => exact ⟨.success, own, rfl⟩

theorem keeps_runChain {k : Kind} {P : Artifact .named k → Prop} (hc : ∀ v, P v → P (customized k v)) {p : Properties} :
    ∀ {links : List (Link .named)} {value v : Artifact .named k} {s s' : Scene .named}, P value →
      run (runChain Host.named k links p value) s = (.ok v, s') → P v
  | [], _, _, _, _, hv, h => by
    cases h
    exact hv
  | link :: _, value, _, s, _, hv, h => by
    rw [runChain_cons] at h
    obtain ⟨v₁, s₁, h₁, h⟩ := ok_of_bind h
    refine keeps_runChain hc ?_ h
    cases link with
    | customizer c =>
      cases h₁
      exact hc value hv
    | configurer plugin => cases k <;> cases h₁ <;> exact hv

theorem proper_customizeExporters {p : Properties} {chain : List (Link .named)} :
    ∀ {created : List (String × Exporter String)} {s s' : Scene .named}
      {customized : List (String × Customized Empty (Exporter String))},
    run (customizeExporters Host.named chain p created) s = (.ok customized, s') →
      ∀ v ∈ customized.map Prod.snd, ∃ e, v = .proper e
  | [], s, s', customized, h => by
    cases h
    exact nofun
  | (name, e) :: created, s, s', customized, h => by
    obtain ⟨v, s₁, hv, h⟩ := ok_of_bind h
    obtain ⟨rest, s₂, hr, h⟩ := ok_of_bind h
    cases h
    have hproper : ∃ e', v = .proper e' := by
      refine keeps_runChain (P := fun v => ∃ e', v = .proper e') ?_ ⟨e, rfl⟩ hv
      rintro _ ⟨e', rfl⟩
      exact ⟨wrapped e', rfl⟩
    exact List.forall_mem_cons.mpr ⟨hproper, proper_customizeExporters hr⟩

end Named

namespace Making
variable {b : Builder .named} {own : Proceedings} {bundle : Bundle .named} (m : Making Host.named b own bundle)

theorem proper_spanExporters : ∀ v ∈ m.spanExporters.values, ∃ e, v = .proper e := by
  rw [OrderedMap.values, m.entries_spanExporters]
  exact Named.proper_customizeExporters m.tracing.customize

theorem proper_logExporters : ∀ v ∈ m.logExporters.values, ∃ e, v = .proper e := by
  intro v hv
  obtain ⟨name, hg⟩ := OrderedMap.mem_values.mp hv
  obtain ⟨e, -, he⟩ := List.mem_map.mp (OrderedMap.mem_of_get?_ofList hg)
  exact ⟨e.2, (congrArg Prod.snd he).symm⟩

theorem audited : ∃ n, bundle.tracer.processors = m.initial.processors ++ List.replicate n Named.audit := by
  let Audited (v : Artifact .named .tracerProvider) : Prop :=
    ∃ settings n, v = .proper settings ∧ settings.processors = m.initial.processors ++ List.replicate n Named.audit
  have hkeeps : Audited (.proper m.settings) := by
    refine Named.keeps_runChain (P := Audited) ?_ ⟨m.initial, 0, rfl, (List.append_nil _).symm⟩ m.customize
    rintro _ ⟨settings, n, rfl, h⟩
    refine ⟨settings.addProcessor Named.audit, n + 1, rfl, ?_⟩
    rw [List.replicate_succ', ← List.append_assoc, ← h]
    rfl
  obtain ⟨settings, n, hs, h⟩ := hkeeps
  cases hs
  exact ⟨n, m.processors_tracer.trans h⟩

end Making

/-! ### Names, wrappers and audits -/

namespace Builder

def ofNames : Builder .named where
  loader := ()
  registry := { chains := fun _ => [.customizer ()], suppliers := [()] }

end Builder

namespace Named

def name? : Customized Empty (Exporter String) → Option String
  | .proper (.outside name) => some name
  | _ => none

theorem eq_of_name? {v : Customized Empty (Exporter String)} {name : String} (h : name? v = some name) :
    v = .proper (.outside name) := by
  unfold name? at h
  split at h
  · cases h
    rfl
  · cases h

def spans : List (String × List (String × Datum)) := [("checkout", []), ("payment", [("amount", .int 7)])]

def records : List Item := [.record (.text "started"), .record (.text "stopped")]

structure Sight where
  calls : Nat
  handed : Nat
  spanNames : List String
  logNames : List String
  spanExporters : List (Option String)
  logExporters : List (Option String)
  workers : Bool
  ended : Nat
  deriving DecidableEq

def Sight.of (built : Builder.Built .named) (bundle : Bundle .named) : Sight where
  calls := built.own.calls
  handed := (built.turns.filterMap Turn.snapshot?).length
  spanNames := (Offering.exporters .traces : Offering .named).names bundle.properties
  logNames := (Offering.exporters .logs : Offering .named).names bundle.properties
  spanExporters := (bundle.tracer.processors.flatMap Processor.exporters).map name?
  logExporters := (bundle.logger.processors.flatMap Processor.exporters).map name?
  workers := (bundle.tracer.processors ++ bundle.logger.processors).all Processor.hasWorker
  ended := ((bundle.tracer.recordEach Host.named 1 spans).run ⟨{}, {}⟩).1.2.length

def sight : Sight where
  calls := 1
  handed := 11
  spanNames := ["otlp", Names.logging, "memory"]
  logNames := ["archive", Names.logging, "memory"]
  spanExporters := [some "wrapped logging", some "wrapped otlp", some "wrapped memory", some "audit"]
  logExporters := [none, some "archive", some "memory"]
  workers := true
  ended := 2

theorem sight_ofNames : (Builder.ofNames.build Host.named {} {}).outcome.toOption.map (fun made =>
    Sight.of (Builder.ofNames.build Host.named {} {}) made.2) = some sight := by
  decide +kernel

theorem ofNames_builds : ∃ n bundle, (Builder.ofNames.build Host.named {} {}).outcome = .ok (n, bundle) ∧
    Sight.of (Builder.ofNames.build Host.named {} {}) bundle = sight := by
  have hs := sight_ofNames
  cases ho : (Builder.ofNames.build Host.named {} {}).outcome with
  | error f =>
    rw [ho] at hs
    cases hs
  | ok made =>
    rw [ho] at hs
    exact ⟨made.1, made.2, rfl, Option.some.inj hs⟩

structure Delivered (signal : Signal) (names : List String) (items : List Item)
    (x : (List (Processor String Empty) × Except Fault Bool) × Pipeline .named) : Prop where
  flushed : x.1.2 = .ok true
  handed : ∀ name ∈ names, Deliveries.of name x.2.own.delivered = items
  counted : (x.2.counters.counter signal).sum = .whole items.length

section
variable {exporters : Exporters .named} {names : List (Option String)} (hv : exporters.values.map name? = names)
include hv

theorem exists_key {name : String} (hn : some name ∈ names) :
    ∃ key, exporters.get? key = some (.proper (.outside name)) := by
  obtain ⟨v, hm, h⟩ := List.mem_map.mp (hv ▸ hn)
  obtain ⟨key, hg⟩ := OrderedMap.mem_values.mp hm
  exact ⟨key, eq_of_name? h ▸ hg⟩

theorem not_mem_values {name : String} (hn : some name ∉ names) : .proper (.outside name) ∉ exporters.values :=
  fun hm => hn (hv ▸ List.mem_map_of_mem hm)

theorem distinct (hp : ∀ v ∈ exporters.values, ∃ e, v = .proper e) (hn : names.Nodup) : exporters.Distinct :=
  ⟨hp, (hv ▸ hn : (exporters.values.map name?).Nodup).of_map name?⟩

theorem delivered {signal : Signal} {ps : List (Processor String Empty)} (h : Delivers Host.named signal exporters ps)
    (ha : some "audit" ∉ names) (hs : ∃ name ∈ exporters.keys, name ≠ Names.logging) {handed : List String}
    (hn : ∀ name ∈ handed, some name ∈ names) {items : List Item} {s : Pipeline .named}
    {ps' : List (Processor String Empty)}
    (hr : ∀ idle, (∀ s, idle s s) → Runs Host.named idle ⟨{}, {}⟩ ps items s ps') :
    Delivered signal handed items ((Bundle.flushProcessors Host.named .enough ps').run s) := by
  have hreturns (key : String) (e : Exporter String) (he : exporters.get? key = some (.proper e)) :
      Host.named.Returns e :=
    returns fun h => not_mem_values hv ha (OrderedMap.mem_values.mpr ⟨key, h ▸ he⟩)
  obtain ⟨ps'', s'', hf, hc⟩ := h.counted hreturns {} items s ps' .enough (hr _ fun _ => rfl) nofun
  rw [if_pos hs] at hc
  rw [hf]
  refine ⟨rfl, fun name hm => ?_, hc⟩
  obtain ⟨key, he⟩ := exists_key hv (hn name hm)
  obtain ⟨ps₁, s₁, hf₁, hseen⟩ := h.handed key _ _ he (watches name) (stays name) (fun key' e he' _ => hreturns key' e he')
    _ items s ps' .enough (hr _ fun _ => rfl) nofun
  cases hf.symm.trans hf₁
  exact hseen

end

theorem exporters_of_keys {exporters : Exporters .named} {first last : String}
    (hk : exporters.keys = [first, Names.logging, last]) (hf : first ≠ Names.logging) (hl : last ≠ Names.logging)
    (signal : Signal) (limits : BatchLimits) :
    ∃ a b c, exporters.entries = [(first, a), (Names.logging, b), (last, c)] ∧
      (exporters.arranged signal limits).flatMap Processor.exporters = [b, a, c] := by
  obtain ⟨entries, hd⟩ := exporters
  obtain ⟨⟨_, a⟩, entries₁, rfl, rfl, h₁⟩ := List.map_eq_cons_iff.mp hk
  obtain ⟨⟨_, b⟩, entries₂, rfl, hb, h₂⟩ := List.map_eq_cons_iff.mp h₁
  obtain ⟨⟨_, c⟩, entries₃, rfl, rfl, h₃⟩ := List.map_eq_cons_iff.mp h₂
  obtain rfl := List.map_eq_nil_iff.mp h₃
  obtain rfl := hb
  refine ⟨a, b, c, rfl, ?_⟩
  rw [Exporters.exporters_arranged]
  simp [OrderedMap.get?, Exporters.shared, OrderedMap.erase, OrderedMap.values, hf, hl]

section
variable {b : Builder .named} {own : Proceedings} {bundle : Bundle .named} (m : Making Host.named b own bundle)

theorem entries_of_shown (hk : m.spanExporters.keys = ["otlp", Names.logging, "memory"])
    (h : (bundle.tracer.processors.flatMap Processor.exporters).map name? =
      [some "wrapped logging", some "wrapped otlp", some "wrapped memory", some "audit"]) :
    m.spanExporters.entries = [("otlp", .proper (.outside "wrapped otlp")),
      (Names.logging, .proper (.outside "wrapped logging")), ("memory", .proper (.outside "wrapped memory"))] := by
  have hn : ∀ v ∈ m.spanExporters.values, v.isNothing = false := by
    intro v hv
    obtain ⟨e, rfl⟩ := m.proper_spanExporters v hv
    rfl
  obtain ⟨limits, harranged⟩ := Processor.arranged_of_configure (Processor.isNothing_logging hn) m.tracing.configure
  obtain ⟨n, haudited⟩ := m.audited
  obtain ⟨x, y, z, he, hl⟩ := exporters_of_keys hk (by decide) (by decide) .traces limits
  rw [haudited, harranged, List.flatMap_append, hl] at h
  simp only [List.map_append, List.map_cons, List.map_nil, List.cons_append, List.cons.injEq] at h
  obtain ⟨hy, hx, hz, -⟩ := h
  rw [he, eq_of_name? hx, eq_of_name? hy, eq_of_name? hz]

theorem names_of_shown (hk : m.logExporters.keys = ["archive", Names.logging, "memory"])
    (h : (bundle.logger.processors.flatMap Processor.exporters).map name? = [none, some "archive", some "memory"]) :
    ∃ v, name? v = none ∧ m.logExporters.entries = [("archive", .proper (.outside "archive")), (Names.logging, v),
      ("memory", .proper (.outside "memory"))] := by
  have hn : ∀ v ∈ m.logExporters.values, v.isNothing = false := by
    intro v hv
    obtain ⟨e, rfl⟩ := m.proper_logExporters v hv
    rfl
  obtain ⟨limits, harranged⟩ := Processor.arranged_of_configure (Processor.isNothing_logging hn) m.configure
  obtain ⟨x, y, z, he, hl⟩ := exporters_of_keys hk (by decide) (by decide) .logs limits
  rw [harranged, hl] at h
  simp only [List.map_cons, List.map_nil, List.cons.injEq] at h
  obtain ⟨hy, hx, hz, -⟩ := h
  refine ⟨y, hy, ?_⟩
  rw [he, eq_of_name? hx, eq_of_name? hz]

theorem retains (ha : .proper (.outside "audit") ∉ m.spanExporters.values) :
    Retains Host.named m.spanExporters m.initial.processors bundle.tracer.processors := by
  obtain ⟨n, haudited⟩ := m.audited
  refine ⟨List.replicate n audit, by rw [haudited], fun p hp => ?_⟩
  exact ⟨.outside "audit", List.eq_of_mem_replicate hp, stays "audit", ha⟩

end

def recorded (bundle : Bundle .named) : (TracerProvider String Empty Empty × List Item) × Pipeline .named :=
  (bundle.tracer.recordEach Host.named 1 spans).run ⟨{}, {}⟩

def received (bundle : Bundle .named) : List (Processor String Empty) × Pipeline .named :=
  (Processor.receiveEach Host.named 1 records bundle.logger.processors).run ⟨{}, {}⟩

end Named

namespace Builder

theorem build_delivers_ofNames :
    ∃ n bundle, (ofNames.build Host.named {} {}).outcome = .ok (n, bundle) ∧ bundle.meter.counters = {} ∧
      ∃ m : Making Host.named ofNames {} bundle,
        m.spanExporters.entries = [("otlp", .proper (.outside "wrapped otlp")),
          (Names.logging, .proper (.outside "wrapped logging")), ("memory", .proper (.outside "wrapped memory"))] ∧
        m.logExporters.keys = ["archive", Names.logging, "memory"] ∧
        (bundle.tracer.processors.flatMap Processor.exporters).length = 4 ∧ (Named.recorded bundle).1.2.length = 2 ∧
        Named.Delivered .traces ["wrapped otlp", "wrapped logging", "wrapped memory"] (Named.recorded bundle).1.2
          ((Bundle.flushProcessors Host.named .enough (Named.recorded bundle).1.1.processors).run
            (Named.recorded bundle).2) ∧
        Named.Delivered .logs ["archive", "memory"] Named.records
          ((Bundle.flushProcessors Host.named .enough (Named.received bundle).1).run (Named.received bundle).2) := by
  obtain ⟨n, bundle, ho, hs⟩ := Named.ofNames_builds
  obtain ⟨-, -, hspans, hlogs, hexporters, hexporters', hworkers, hlength⟩ := Named.Sight.mk.inj hs
  rw [List.all_append, Bool.and_eq_true] at hworkers
  obtain ⟨hc, m, hk, hdelivers, hk', hdelivers'⟩ := build_delivers Host.named ofNames {} {} ho
  replace hk := hk.trans hspans
  replace hk' := hk'.trans hlogs
  have he := Named.entries_of_shown m hk hexporters
  obtain ⟨v, hv, he'⟩ := Named.names_of_shown m hk' hexporters'
  have hnames : m.spanExporters.values.map Named.name? =
      [some "wrapped otlp", some "wrapped logging", some "wrapped memory"] := by
    rw [OrderedMap.values, he]
    rfl
  have hnames' : m.logExporters.values.map Named.name? = [some "archive", none, some "memory"] := by
    rw [OrderedMap.values, he', List.map_cons, List.map_cons, List.map_cons, List.map_cons, List.map_cons, hv]
    rfl
  have hspan := hdelivers (Named.distinct hnames m.proper_spanExporters (by decide))
    (Named.retains m (Named.not_mem_values hnames (by decide)))
  have hlog := hdelivers' (Named.distinct hnames' m.proper_logExporters (by decide))
  refine ⟨n, bundle, ho, hc, m, he, hk', ?_, hlength, ?_, ?_⟩
  · rw [← List.length_map Named.name?, hexporters]
    rfl
  · refine Named.delivered hnames hspan (by decide) ⟨"otlp", hk ▸ by decide⟩ (by decide) fun idle hi => ?_
    exact TracerProvider.runs_recordEach (fun _ s => hi s) 1 Named.spans bundle.tracer _ hworkers.1
  · refine Named.delivered hnames' hlog (by decide) ⟨"archive", hk' ▸ by decide⟩ (by decide) fun idle _ => ?_
    exact runs_receiveEach Host.named idle 1 Named.records _ hworkers.2

end Builder

end Telemetry
