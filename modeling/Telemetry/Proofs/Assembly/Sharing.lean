import Telemetry.Proofs.Assembly.Threads

/-! # What the parts of a bundle share

An assembly settles once what its settings are, and once what the resource is, and hands both on to everything
that it makes. Suppliers may supply something else whenever they are called, and customizers may return what
they like, so none of it could be had a second time. -/

namespace Telemetry

open Assembly

section
variable {W : Outside}

/-! ## Sources -/

/-- The source that was asked for what it has, and its answer; no supplier stands for the environment. -/
def Turn.consulted? : Turn W → Option (Option W.Supplier × Except Fault Source)
  | .asked (.supply supplier) _ answer _ => some (some supplier, answer)
  | .asked .environment _ answer _ => some (none, answer)
  | _ => none

/-- A given snapshot is used as it is, and no source is consulted. Otherwise each of the suppliers is consulted
once, in order, and then the environment, and the snapshot is made of these answers. -/
def Builder.Settles (b : Builder W) (suppliers : List W.Supplier)
    (consulted : List (Option W.Supplier × Except Fault Source)) (p : Properties) : Prop :=
  match b.properties with
  | some q => p = q ∧ consulted = []
  | none => ∃ (sources : List Source) (environment : Source), sources.length = suppliers.length ∧
    consulted = (suppliers.zip sources).map (fun x => (some x.1, .ok x.2)) ++ [(none, .ok environment)] ∧
    p = .create (.layer sources) environment b.processProperties

section
variable {host : Host W} {s s' : Scene W} {p : Properties}

theorem consulted_suppliers : ∀ {suppliers : List W.Supplier} {sources : List Source} {s s' : Scene W},
    run (suppliers.mapM fun supplier => ask host (.supply supplier) ()) s = (.ok sources, s') →
      ∃ ts, s'.turns = s.turns ++ ts ∧ (∀ t ∈ ts, t.Asks fun r => r.consults = true) ∧
        sources.length = suppliers.length ∧
        ts.filterMap Turn.consulted? = (suppliers.zip sources).map fun x => (some x.1, .ok x.2)
  | [], sources, s, s', h => by
    cases h
    exact ⟨[], (List.append_nil _).symm, fun t ht => absurd ht List.not_mem_nil, rfl, rfl⟩
  | supplier :: suppliers, sources, s, s', h => by
    rw [List.mapM_cons] at h
    obtain ⟨source, s₁, h₁, h⟩ := ok_of_bind h
    obtain ⟨rest, s₂, h₂, h⟩ := ok_of_bind h
    cases h
    obtain ⟨answer, v, -, hr⟩ := run_ask host (.supply supplier) () s
    cases hr.symm.trans h₁
    obtain ⟨ts, ht, hts, hl, hc⟩ := consulted_suppliers h₂
    refine ⟨.asked (.supply supplier) () (.ok source) v.added :: ts, ?_, ?_, congrArg (· + 1) hl, ?_⟩
    · rw [ht, List.append_assoc, List.singleton_append]
    · exact List.forall_mem_cons.mpr ⟨rfl, hts⟩
    · exact congrArg ((some supplier, .ok source) :: ·) hc

theorem consults_snapshot {b : Builder W} (h : run (b.snapshot host) s = (.ok p, s')) :
    ∃ ts, s'.turns = s.turns ++ ts ∧ (∀ t ∈ ts, t.Asks fun r => r.consults = true) ∧
      b.Settles s.registry.suppliers (ts.filterMap Turn.consulted?) p := by
  unfold Builder.snapshot at h
  unfold Builder.Settles
  cases hp : b.properties with
  | some q =>
    rw [hp] at h
    cases h
    exact ⟨[], (List.append_nil _).symm, fun t ht => absurd ht List.not_mem_nil, rfl, rfl⟩
  | none =>
    rw [hp] at h
    obtain ⟨supplied, s₁, h₁, h⟩ := ok_of_bind h
    obtain ⟨environment, s₂, h₂, h⟩ := ok_of_bind h
    cases h
    rw [Builder.run_supplied] at h₁
    obtain ⟨sources, s₃, h₃, h₁⟩ := ok_of_bind h₁
    cases h₁
    obtain ⟨ts, ht, hts, hl, hc⟩ := consulted_suppliers h₃
    obtain ⟨answer, v, -, hr⟩ := run_ask host .environment () s₁
    cases hr.symm.trans h₂
    refine ⟨ts ++ [.asked .environment () (.ok environment) v.added], ?_, ?_, sources, environment, hl, ?_, rfl⟩
    · rw [ht, List.append_assoc]
    · exact List.forall_mem_append.mpr ⟨hts, List.forall_mem_singleton.mpr rfl⟩
    · rw [List.filterMap_append, hc]
      rfl

/-! ## Built-in exporters -/

def BuiltinFrom (p : Properties) (signal : Signal) (made : OrderedMap String (Exporter W.Exporter)) : Prop :=
  ∀ name make e, builtinExporter? signal name = some make → made.get? name = some e → make p = .ok e

variable {loader : W.Loader} {signal : Signal}

theorem builtin_createExporters : ∀ {names : List String} {known : Option (Selection.Table W)}
    {created : List (String × Exporter W.Exporter)} {s s' : Scene W},
    run (createExporters host loader (exporterCatalogue W signal) p names known) s = (.ok created, s') →
      ∀ x ∈ created, ∀ make, builtinExporter? signal x.1 = some make → make p = .ok x.2
  | [], known, created, s, s', h => by
    cases h
    exact fun x hx => absurd hx List.not_mem_nil
  | name :: names, known, created, s, s', h => by
    rw [createExporters] at h
    cases hb : (exporterCatalogue W signal).builtin? name with
    | some make =>
      rw [hb] at h
      obtain ⟨e, s₁, h₁, h⟩ := ok_of_bind h
      obtain ⟨-, s₂, -, h⟩ := ok_of_bind h
      obtain ⟨rest, s₃, h₃, h⟩ := ok_of_bind h
      cases h
      refine List.forall_mem_cons.mpr ⟨fun make' hm => ?_, builtin_createExporters h₃⟩
      rw [exporterCatalogue_builtin?] at hb
      cases hm.symm.trans hb
      exact ok_of_check h₁
    | none =>
      rw [hb] at h
      obtain ⟨table, s₁, -, h⟩ := ok_of_bind h
      obtain ⟨plugin, s₂, -, h⟩ := ok_of_bind h
      obtain ⟨e, s₃, -, h⟩ := ok_of_bind h
      obtain ⟨-, s₄, -, h⟩ := ok_of_bind h
      obtain ⟨rest, s₅, h₅, h⟩ := ok_of_bind h
      cases h
      refine List.forall_mem_cons.mpr ⟨fun make hm => ?_, builtin_createExporters h₅⟩
      rw [exporterCatalogue_builtin?] at hb
      cases hm.symm.trans hb

theorem builtin_configureExporters {made : OrderedMap String (Exporter W.Exporter)}
    (h : run (configureExporters host loader (exporterCatalogue W signal) p) s = (.ok made, s')) :
    BuiltinFrom p signal made := by
  unfold configureExporters at h
  obtain ⟨names, s₁, -, h⟩ := ok_of_bind h
  obtain ⟨created, s₂, h₂, h⟩ := ok_of_bind h
  cases h
  intro name make e hm he
  rw [OrderedMap.get?_ofList, Option.map_eq_some_iff] at he
  obtain ⟨x, hx, rfl⟩ := he
  have hn : x.1 = name := by simpa using List.find?_some hx
  subst hn
  exact builtin_createExporters h₂ x (List.mem_reverse.mp (List.mem_of_find?_eq_some hx)) make hm

theorem exporters_readers {millis : Int} :
    ∀ {es : List (Exporter W.Exporter)} {readers : List (MetricReader W.Exporter)},
    es.mapM (MetricReader.make millis) = .ok readers → readers.map MetricReader.exporter = es
  | [], readers, h => by
    cases h
    rfl
  | e :: es, readers, h => by
    rw [List.mapM_cons] at h
    obtain ⟨reader, hr, h⟩ := Except.ok_of_bind h
    obtain ⟨rest, hs, h⟩ := Except.ok_of_bind h
    cases h
    have he : reader.exporter = e := by
      unfold MetricReader.make at hr
      split at hr
      · cases hr
      · cases hr
        rfl
    rw [List.map_cons, he, exporters_readers hs]

theorem readers_configureMeter {resource : Resource} {meter : MeterProvider W.Exporter}
    (h : run (configureMeter host loader resource p) s = (.ok meter, s')) :
    ∃ made, BuiltinFrom p .metrics made ∧ meter.readers.map MetricReader.exporter = made.values := by
  unfold configureMeter at h
  obtain ⟨asked, s₁, -, h⟩ := ok_of_bind h
  obtain ⟨made, s₂, h₂, h⟩ := ok_of_bind h
  obtain ⟨readers, s₃, h₃, h⟩ := ok_of_bind h
  obtain ⟨-, s₄, -, h⟩ := ok_of_bind h
  cases h
  exact ⟨made, builtin_configureExporters h₂, exporters_readers (ok_of_check h₃)⟩

end

/-! ## Builds -/

section
variable {t : Turn W}

theorem Turn.applied?_of_snapshot? (h : t.snapshot? = none) (k : Kind) : t.applied? k = none := by
  cases t with
  | checked c fault => rfl
  | asked r input answer added =>
    cases r with
    | apply kind link p => cases h
    | _ => rfl

theorem Turn.early_of_merges (h : t.merges = true) : t.snapshot? = none ∧ t.consulted? = none := by
  cases t with
  | checked c fault => exact ⟨rfl, rfl⟩
  | asked r input answer added =>
    cases r with
    | load loader group => exact ⟨rfl, rfl⟩
    | contribute plugin => exact ⟨rfl, rfl⟩
    | _ => cases h

theorem Turn.early_of_consults (h : t.Asks fun r => r.consults = true) : t.snapshot? = none ∧ t.merges = false := by
  cases t with
  | checked c fault => exact ⟨rfl, rfl⟩
  | asked r input answer added =>
    cases r with
    | supply supplier => exact ⟨rfl, rfl⟩
    | environment => exact ⟨rfl, rfl⟩
    | _ => cases h

theorem Turn.late_of_within {p : Properties} {K : Kind → Prop} (h : t.Asks (Request.Within p K)) :
    t.merges = false ∧ t.consulted? = none ∧ ∀ q, t.snapshot? = some q → q = p := by
  cases t with
  | checked c fault => exact ⟨rfl, rfl, nofun⟩
  | asked r input answer added =>
    cases r with
    | load loader group =>
      have hg : group ∉ Names.merged := h
      refine ⟨?_, rfl, nofun⟩
      simp [Turn.merges, Request.merges, hg]
    | apply k link q =>
      refine ⟨rfl, rfl, fun q' hq => ?_⟩
      cases hq
      exact h.2
    | createExporter plugin q =>
      refine ⟨rfl, rfl, fun q' hq => ?_⟩
      cases hq
      exact h
    | createPropagator plugin q =>
      refine ⟨rfl, rfl, fun q' hq => ?_⟩
      cases hq
      exact h
    | _ => exact h.elim

structure Phases (p : Properties) (ts us vs : List (Turn W)) : Prop where
  merging : ∀ t ∈ ts, t.merges = true
  consulting : ∀ t ∈ us, t.Asks fun r => r.consults = true
  settled : ∀ t ∈ vs, t.Asks (Request.Within p fun _ => True)

section
variable {p : Properties} {ts us vs : List (Turn W)} (h : Phases p ts us vs)
include h

theorem Phases.merges : ((ts ++ us) ++ vs).filter Turn.merges = ts := by
  have hu : us.filter Turn.merges = [] := by
    rw [List.filter_eq_nil_iff]
    intro t ht
    simp [(Turn.early_of_consults (h.consulting t ht)).2]
  have hv : vs.filter Turn.merges = [] := by
    rw [List.filter_eq_nil_iff]
    intro t ht
    simp [(Turn.late_of_within (h.settled t ht)).1]
  rw [List.filter_append, List.filter_append, List.filter_eq_self.mpr h.merging, hu, hv, List.append_nil,
    List.append_nil]

theorem Phases.consulted : ((ts ++ us) ++ vs).filterMap Turn.consulted? = us.filterMap Turn.consulted? := by
  have ht : ts.filterMap Turn.consulted? = [] :=
    List.filterMap_eq_nil_iff.mpr fun t ht => (Turn.early_of_merges (h.merging t ht)).2
  have hv : vs.filterMap Turn.consulted? = [] :=
    List.filterMap_eq_nil_iff.mpr fun t ht => (Turn.late_of_within (h.settled t ht)).2.1
  rw [List.filterMap_append, List.filterMap_append, ht, hv, List.nil_append, List.append_nil]

theorem Phases.early : ∀ t ∈ ts ++ us, t.snapshot? = none := by
  intro t ht
  rcases List.mem_append.mp ht with ht | ht
  · exact (Turn.early_of_merges (h.merging t ht)).1
  · exact (Turn.early_of_consults (h.consulting t ht)).1

theorem Phases.handed : ∀ q ∈ ((ts ++ us) ++ vs).filterMap Turn.snapshot?, q = p := by
  intro q hq
  obtain ⟨t, ht, hq⟩ := List.mem_filterMap.mp hq
  rcases List.mem_append.mp ht with ht | ht
  · cases (h.early t ht).symm.trans hq
  · exact (Turn.late_of_within (h.settled t ht)).2.2 q hq

end

end

namespace Builder

/-- What the parts of a bundle have in common: one snapshot, for which each source was consulted at most once
and which everything is handed that has a say in them, and one resource. -/
structure Shares (host : Host W) (b : Builder W) (own : W.State) (ts : List (Turn W)) (bundle : Bundle W) : Prop where
  settles : b.Settles (b.registry.suppliers ++ suppliersOf ((ts.filter Turn.merges).flatMap Turn.added))
    (ts.filterMap Turn.consulted?) bundle.properties
  handed : ∀ p ∈ ts.filterMap Turn.snapshot?, p = bundle.properties
  points : ∃ made, BuiltinFrom bundle.properties .metrics made ∧
    bundle.meter.readers.map MetricReader.exporter = made.values
  builtin : ∃ m : Making host b own bundle, BuiltinFrom bundle.properties .traces m.tracing.made ∧
    BuiltinFrom bundle.properties .logs m.records
  threaded : Threaded bundle.properties ts bundle
  kept : (∀ t ∈ ts, t.KeepsResource) →
    bundle.tracer.resource = bundle.resource ∧ bundle.tracer.resourceReplaced = false

/-- In every build that succeeds each supplier that is registered by then is consulted once, unless a snapshot
was given, and then none is. Everything that is made from settings, and every customizer, is handed the
snapshot that the bundle keeps. What the chain makes of the configured resource is the resource of the bundle,
of its meter and of its logger provider, and the chain of the tracer provider starts from it, so that the
tracer provider has it as well if no link of that chain changes it. -/
theorem build_shares (host : Host W) (b : Builder W) (own : W.State) (estate : Estate) {n : Nat} {bundle : Bundle W}
    (h : (b.build host own estate).outcome = .ok (n, bundle)) :
    b.Shares host own (b.build host own estate).turns bundle := by
  obtain ⟨s, hrun⟩ : ∃ s, run (b.assemble host) { own, registry := b.registry } = (.ok bundle, s) :=
    ⟨_, Prod.ext (ok_of_outcome h) rfl⟩
  obtain ⟨m⟩ := making_of_ok hrun
  rw [(build_scene host b own estate).1, hrun]
  rw [assemble_eq] at hrun
  obtain ⟨_, s₁, h₁, hrun⟩ := ok_of_bind hrun
  obtain ⟨p, s₂, h₂, hrun⟩ := ok_of_bind hrun
  obtain ⟨r, ts₁, s₁', hr, ht₁, hm, hsup⟩ := run_merging host b { own, registry := b.registry }
  cases hr.symm.trans h₁
  obtain ⟨ts₂, ht₂, hc, hs⟩ := consults_snapshot h₂
  obtain ⟨rfl, ts₃, hg, hthreaded⟩ := threaded_assembleFrom hrun
  have hturns : s.turns = (ts₁ ++ ts₂) ++ ts₃ := by
    rw [hg.turns, ht₂, ht₁]
    rfl
  rw [hturns]
  have hp : Phases bundle.properties ts₁ ts₂ ts₃ := ⟨hm, hc, hg.asks⟩
  have hall : Threaded bundle.properties ((ts₁ ++ ts₂) ++ ts₃) bundle :=
    hthreaded.after fun t ht => Turn.applied?_of_snapshot? (hp.early t ht)
  have hmade := builtin_configureExporters m.tracing.create
  have hrecords := builtin_configureExporters m.record
  refine ⟨?_, hp.handed, readers_configureMeter m.meter, ⟨m, hmade, hrecords⟩, hall, hall.kept⟩
  rw [hp.merges, hp.consulted, ← hsup]
  exact hs

end Builder

end

/-! ### A supplier with other settings later -/

namespace Builder

theorem build_shares_ofNames :
    ∃ n bundle, (ofNames.build Host.named {} {}).outcome = .ok (n, bundle) ∧
      ofNames.Shares Host.named {} (ofNames.build Host.named {} {}).turns bundle ∧
      (ofNames.build Host.named {} {}).own.calls = 1 ∧
      ((ofNames.build Host.named {} {}).turns.filterMap Turn.snapshot?).length = 11 ∧
      (Offering.exporters .traces : Offering .named).names bundle.properties = ["otlp", Names.logging, "memory"] := by
  obtain ⟨n, bundle, ho, hs⟩ := Named.ofNames_builds
  obtain ⟨hcalls, hhanded, hspans, -⟩ := Named.Sight.mk.inj hs
  exact ⟨n, bundle, ho, build_shares Host.named ofNames {} {} ho, hcalls, hhanded, hspans⟩

end Builder

end Telemetry
