import Telemetry.Assembly.Builder
import Telemetry.Proofs.Assembly.Announcement
import Telemetry.Proofs.Properties.Blame

/-! # Builds from what is built in

Without plugins and customizers a build depends on its settings alone. If it fails, one of them is to
blame. That fault need not be a configuration fault, because the numbers that processors, readers and
exporters do not accept are passed to them unchecked. -/

namespace Telemetry

open Assembly

section
variable {W : Outside} {α β : Type}

def Registry.Bare (r : Registry W) : Prop := ∀ k, r.resolve k = []

def Host.ServesNothing (host : Host W) (loader : W.Loader) : Prop :=
  ∀ group own, ∃ v : Visit W, (host.load loader group).run { own } = (.ok [], v) ∧ v.added = []

namespace Assembly

/-- As long as nothing is registered, an action registers nothing, and its result has one property or
its fault another. -/
def Yields (act : Assembly W α) (Q : α → Prop) (P : Fault → Prop) : Prop :=
  ∀ s, s.registry.Bare → (run act s).2.registry.Bare ∧
    match (run act s).1 with
    | .ok a => Q a
    | .error f => P f

namespace Yields
variable {Q : α → Prop} {R : β → Prop} {P : Fault → Prop}

theorem pure {a : α} (h : Q a) : Yields (pure a : Assembly W α) Q P := fun _ hs => ⟨hs, h⟩

theorem bind {act : Assembly W α} {k : α → Assembly W β} (h : Yields act Q P) (hk : ∀ a, Q a → Yields (k a) R P) :
    Yields (act >>= k) R P := by
  intro s hs
  obtain ⟨hb, hq⟩ := h s hs
  rcases run_bind_cases act k s with ⟨f, s', hr, he⟩ | ⟨a, s', hr, he⟩
  · rw [hr] at hb hq
    rw [he]
    exact ⟨hb, hq⟩
  · rw [hr] at hb hq
    rw [he]
    exact hk a hq s' hb

theorem emit (e : Event) : Yields (emit e : Assembly W Unit) (fun _ => True) P := fun _ hs => ⟨hs, trivial⟩

theorem check (c : Check W) {r : Except Fault α} (hp : ∀ f, r = .error f → P f) :
    Yields (check c r) (fun a => r = .ok a) P := by
  intro s hs
  refine ⟨hs, ?_⟩
  cases r with
  | ok a => exact rfl
  | error f => exact hp f rfl

theorem resolve (k : Kind) : Yields (resolve k : Assembly W (List (Link W))) (· = []) P := fun _ hs => ⟨hs, hs k⟩

theorem load {host : Host W} {loader : W.Loader} (hl : host.ServesNothing loader) (group : String) :
    Yields (ask host (.load loader group) ()) (· = []) P := by
  intro s hs
  obtain ⟨v, hv, ha⟩ := hl group s.own
  obtain ⟨answer, v', hv', hr⟩ := run_ask host (.load loader group) () s
  have he : (Except.ok [], v) = (answer, v') := hv.symm.trans hv'
  cases he
  rw [hr]
  refine ⟨?_, rfl⟩
  rw [ha]
  exact hs

end Yields

end Assembly

/-! ## Components -/

theorem blamed_builtinExporter {p : Properties} {ε : Type} {signal : Signal} {name : String}
    {make : Properties → Except Fault (Exporter ε)} {f : Fault} (h : builtinExporter? signal name = some make)
    (hf : make p = .error f) : p.Blamed f := by
  unfold builtinExporter? at h
  split at h
  · cases h
    exact Properties.blamed_options (Except.error_of_map hf)
  · split at h
    · cases h
      cases hf
    · cases h

theorem blamed_configuredResource {p : Properties} {f : Fault} (h : configuredResource p = .error f) : p.Blamed f := by
  unfold configuredResource at h
  rcases Except.error_of_bind h with h | ⟨attributes, -, h⟩
  · unfold configuredAttributes at h
    rcases Except.error_of_bind h with h | ⟨listed, -, h⟩
    · exact Properties.blamed_of_names (Properties.names_of_map h)
    · simp only at h
      split at h
      · cases h
      · cases h
  · cases h

theorem eraseDups_singleton_alone (name : String) :
    ¬ ([name].eraseDups.contains Names.none = true ∧ 1 < [name].eraseDups.length) := by
  rw [List.eraseDups_cons]
  exact fun h => absurd h.2 (by simp)

/-! ## Stages -/

section
variable {host : Host W} {loader : W.Loader} (hl : host.ServesNothing loader) {p : Properties}
include hl

theorem yields_merge : Yields (Discovery.merge host loader) (fun _ => True) p.Blamed := by
  refine .bind (.load hl _) fun configurers hc => ?_
  rw [hc]
  refine .bind (Q := fun _ => True) (.pure trivial) fun _ _ => ?_
  refine .bind (.load hl _) fun providers hp => ?_
  rw [hp]
  exact .pure trivial

theorem yields_loaded (group : String) {known : Option (Selection.Table W)}
    (hk : ∀ table ∈ known, ∀ name, table.get? name = none) :
    Yields (Selection.loaded host loader group known) (fun table => ∀ name, table.get? name = none) p.Blamed := by
  cases known with
  | some table => exact .pure (hk table rfl)
  | none =>
    refine .bind (.load hl _) fun plugins hp => ?_
    rw [hp]
    exact .pure fun _ => rfl

omit hl in
theorem mem_default_of_configured {key : String} {default : List String} (hp : ¬ p.contains key = true) {name : String}
    (hm : name ∈ p.configured key default) : name ∈ default ∧ name ≠ Names.none := by
  unfold Properties.configured at hm
  simp only [Properties.list?_unset hp, Option.getD_none] at hm
  split at hm
  · cases hm
  · rename_i hn
    refine ⟨List.mem_eraseDups.mp hm, fun h => hn ?_⟩
    rw [← h]
    exact List.contains_iff_mem.mpr hm

omit hl in
theorem builtinExporter?_default (signal : Signal) {name : String}
    (hm : name ∈ [(exporterCatalogue W signal).default] ∧ name ≠ Names.none) :
    (builtinExporter? (ε := W.Exporter) signal name).isSome = true := by
  obtain ⟨hd, hn⟩ := hm
  cases List.mem_singleton.mp hd
  cases signal with
  | traces => rfl
  | metrics => rfl
  | logs => exact absurd rfl hn

omit hl in
theorem blamed_unrecognized {key name : String} (hp : p.contains key = true) :
    p.Blamed (.configuration (.unrecognized key name)) :=
  ⟨key, hp, .configuration rfl⟩

theorem yields_lookup {key group name : String} {known : Option (Selection.Table W)}
    (hk : ∀ table ∈ known, ∀ name, table.get? name = none) (hp : p.contains key = true)
    {k : Selection.Table W → W.Plugin → Assembly W α} {Q : α → Prop} :
    Yields (do
      let table ← Selection.loaded host loader group known
      let plugin ← check (.lookup key name) (Selection.plugin table key name)
      k table plugin) Q p.Blamed := by
  refine .bind (yields_loaded hl group hk) fun table ht => ?_
  have he : Selection.plugin table key name = .error (.configuration (.unrecognized key name)) := by
    rw [Selection.plugin, ht name]
  refine .bind (.check _ fun f hf => ?_) fun plugin hr => ?_
  · cases he.symm.trans hf
    exact blamed_unrecognized hp
  · cases he.symm.trans hr

theorem yields_createExporters (signal : Signal) : ∀ names : List String,
    (∀ name ∈ names, (builtinExporter? (ε := W.Exporter) signal name).isSome ∨
      p.contains (exporterCatalogue W signal).key = true) →
    Yields (createExporters host loader (exporterCatalogue W signal) p names none) (fun _ => True) p.Blamed
  | [], _ => .pure trivial
  | name :: names, hn => by
    have ih := yields_createExporters signal names fun name hm => hn name (List.mem_cons_of_mem _ hm)
    rw [createExporters, exporterCatalogue_builtin?]
    cases hb : builtinExporter? (ε := W.Exporter) signal name with
    | some make =>
      refine .bind (.check _ fun f hf => blamed_builtinExporter hb hf) fun e _ => ?_
      exact .bind (.emit _) fun _ _ => .bind ih fun _ _ => .pure trivial
    | none =>
      rcases hn name List.mem_cons_self with h | h
      · rw [hb] at h
        cases h
      · exact yields_lookup hl (fun table ht => absurd ht (Option.not_mem_none table)) h

theorem yields_configureExporters (signal : Signal) :
    Yields (configureExporters host loader (exporterCatalogue W signal) p) (fun _ => True) p.Blamed := by
  refine .bind (.check _ fun f hf => Properties.blamed_names (eraseDups_singleton_alone _) hf) fun names hn => ?_
  refine .bind (yields_createExporters hl signal names fun name hm => ?_) fun _ _ => .pure trivial
  rw [Selection.names_eq hn] at hm
  by_cases hp : p.contains (exporterCatalogue W signal).key = true
  · exact .inr hp
  · exact .inl (builtinExporter?_default signal (mem_default_of_configured hp hm))

theorem yields_createPropagators : ∀ names : List String,
    (∀ name ∈ names, (Propagator.builtin? name).isSome ∨ p.contains Names.propagators = true) →
    Yields (createPropagators host loader [] p names none) (fun _ => True) p.Blamed
  | [], _ => .pure trivial
  | name :: names, hn => by
    have ih := yields_createPropagators names fun name hm => hn name (List.mem_cons_of_mem _ hm)
    rw [createPropagators]
    cases hb : Propagator.builtin? name with
    | some builtin =>
      refine .bind (.check _ fun f hf => ?_) fun made _ => ?_
      · cases hf
      refine .bind (Q := fun _ => True) (.pure trivial) fun _ _ => .bind ih fun _ _ => .pure trivial
    | none =>
      rcases hn name List.mem_cons_self with h | h
      · rw [hb] at h
        cases h
      · exact yields_lookup hl (fun table ht => absurd ht (Option.not_mem_none table)) h

theorem yields_configurePropagators :
    Yields (configurePropagators host loader [] p) (fun _ => True) p.Blamed := by
  refine .bind (.check _ fun f hf => Properties.blamed_names (by decide) hf) fun names hn => ?_
  refine .bind (yields_createPropagators hl names fun name hm => ?_) fun _ _ =>
    .bind (.emit _) fun _ _ => .pure trivial
  rw [Selection.names_eq hn] at hm
  by_cases hp : p.contains Names.propagators = true
  · exact .inr hp
  · have hd := (mem_default_of_configured hp hm).1
    simp only [Names.defaultPropagators, List.mem_cons, List.not_mem_nil, or_false] at hd
    rcases hd with rfl | rfl
    · exact .inl rfl
    · exact .inl rfl

omit hl in
theorem yields_configureResource :
    Yields (configureResource host [] p) (fun _ => True) p.Blamed := by
  refine .bind (.check _ fun f hf => blamed_configuredResource hf) fun initial _ => ?_
  refine .bind (Q := fun customized => customized = .proper initial) (.pure rfl) fun customized hc => ?_
  rw [hc]
  exact .bind (.check _ nofun) fun _ _ => .bind (.emit _) fun _ _ => .pure trivial

theorem yields_configureMeter (resource : Resource) :
    Yields (configureMeter host loader resource p) (fun _ => True) p.Blamed := by
  refine .bind (.check _ fun f hf => Properties.blamed_durationMillis? hf) fun asked ha => ?_
  refine .bind (yields_configureExporters hl .metrics) fun exporters _ => ?_
  refine .bind (.check _ fun f hf => Properties.blamed_readers ha hf) fun readers _ => ?_
  exact .bind (.emit _) fun _ _ => .pure trivial

omit hl in
theorem yields_customizeExporters : ∀ created : List (String × Exporter W.Exporter),
    Yields (customizeExporters host [] p created) (fun _ => True) p.Blamed
  | [] => .pure trivial
  | _ :: created => .bind (Q := fun _ => True) (.pure trivial) fun _ _ =>
    .bind (yields_customizeExporters created) fun _ _ => .pure trivial

theorem yields_configureTracer (settings : Component W .tracerProvider) :
    Yields (configureTracer host loader p [] [] settings) (fun _ => True) p.Blamed := by
  refine .bind (.check _ fun f hf => Properties.blamed_sampler hf) fun initial _ => ?_
  refine .bind (Q := fun _ => True) (.pure trivial) fun sampler _ => ?_
  refine .bind (yields_configureExporters hl .traces) fun created _ => ?_
  refine .bind (yields_customizeExporters created.entries) fun customized _ => ?_
  refine .bind (.check _ fun f hf => Properties.blamed_configure hf) fun processors _ => ?_
  exact .bind (.emit _) fun _ _ => .pure trivial

theorem yields_configureLogger (resource : Resource) :
    Yields (configureLogger host loader resource p) (fun _ => True) p.Blamed := by
  refine .bind (yields_configureExporters hl .logs) fun created _ => ?_
  refine .bind (.check _ fun f hf => Properties.blamed_configure hf) fun processors _ => ?_
  exact .bind (.emit _) fun _ _ => .pure trivial

theorem yields_assembleFrom : Yields (Builder.assembleFrom host loader p) (fun _ => True) p.Blamed := by
  refine .bind (.resolve .resource) fun chain hc => ?_
  rw [hc]
  refine .bind yields_configureResource fun resource _ => ?_
  refine .bind (yields_configureMeter hl resource) fun meter _ => ?_
  refine .bind (.resolve .spanExporter) fun exporterChain he => ?_
  refine .bind (.resolve .sampler) fun samplerChain hs => ?_
  rw [he, hs]
  refine .bind (yields_configureTracer hl _) fun initial _ => ?_
  refine .bind (.resolve .tracerProvider) fun chain hc => ?_
  rw [hc]
  refine .bind (Q := fun customized => customized = .proper initial) (.pure rfl) fun customized hc => ?_
  rw [hc]
  refine .bind (.check _ nofun) fun settings _ => ?_
  refine .bind (yields_configureLogger hl resource) fun logger _ => ?_
  refine .bind (.resolve .propagator) fun chain hc => ?_
  rw [hc]
  exact .bind (yields_configurePropagators hl) fun _ _ => .pure trivial

end

/-! ## Builds -/

theorem Builder.error_of_outcome {host : Host W} {b : Builder W} {own : W.State} {estate : Estate} {f : Fault}
    (h : (b.build host own estate).outcome = .error f) :
    (run (b.assemble host) { own, registry := b.registry }).1 = .error f := by
  rcases b.build_cases host own estate with ⟨e, s, hr, hb⟩ | ⟨bundle, s, hr, hb⟩
  · rw [hb] at h
    cases h
    rw [hr]
  · rw [hb] at h
    cases h

/-- Without plugins and customizers a build from a snapshot makes a bundle, or raises a fault that a
setting of the snapshot is to blame for. -/
theorem Builder.build_blames (host : Host W) (b : Builder W) {p : Properties} (hp : b.properties = some p)
    (hr : b.registry.Bare) (hl : host.ServesNothing b.loader) (own : W.State) (estate : Estate) :
    (∃ made, (b.build host own estate).outcome = .ok made) ∨
      ∃ f, (b.build host own estate).outcome = .error f ∧ p.Blamed f := by
  cases ho : (b.build host own estate).outcome with
  | ok made => exact .inl ⟨made, rfl⟩
  | error f =>
    have hf := error_of_outcome ho
    have hy : Yields (b.assemble host) (fun _ => True) p.Blamed := by
      rw [assemble_eq]
      refine .bind (Q := fun _ => True) ?_ fun _ _ => ?_
      · cases b.pluginsMerged with
        | true => exact .pure trivial
        | false => exact yields_merge hl
      · refine .bind (Q := fun q => q = p) ?_ fun q hq => ?_
        · rw [snapshot, hp]
          exact .pure rfl
        · rw [hq]
          exact yields_assembleFrom hl
    have := (hy { own, registry := b.registry } hr).2
    rw [hf] at this
    exact .inr ⟨f, rfl, this⟩

end

/-! ## A number that is too small -/

def Outside.void : Outside where
  Customizer := Empty
  Supplier := Empty
  Plugin := Empty
  Loader := Unit
  Exporter := Empty
  IdGenerator := Empty
  Thing := Empty
  State := Unit

def Host.void : Host .void where
  customize _ := nofun
  supply := nofun
  environment := pure .empty
  load _ _ := pure []
  typeName := nofun
  nameOf := nofun
  contribute := nofun
  configure := nofun
  createExporter := nofun
  createPropagator := nofun
  channel _ := .improper "Empty"
  metricChannel _ := .improper "Empty"
  traceId _ := pure 0

theorem Host.servesNothing_void : Host.void.ServesNothing () := fun _ _ => ⟨_, rfl, rfl⟩

namespace Properties

def zeroInterval : Properties := ⟨.ofList [(Names.metricExportInterval, some "0")]⟩

end Properties

namespace Builder

def ofZeroInterval : Builder .void := { loader := (), properties := some .zeroInterval }

theorem ofZeroInterval_fails :
    ((ofZeroInterval.build Host.void () {}).outcome.map fun _ => ()).mapError Fault.name = .error "ValueError" := by
  decide +kernel

/-- The only setting there is parses, and its number is not checked before a reader is made with it. -/
theorem ofZeroInterval_escapes :
    Properties.zeroInterval.settings.keys = [Names.metricExportInterval] ∧
      (Properties.zeroInterval.durationMillis? Names.metricExportInterval).toOption = some (some 0) ∧
      ((ofZeroInterval.build Host.void () {}).outcome.map fun _ => ()).mapError Fault.name = .error "ValueError" :=
  ⟨rfl, by decide +kernel, ofZeroInterval_fails⟩

theorem build_blames_zeroInterval :
    ∃ f, (ofZeroInterval.build Host.void () {}).outcome = .error f ∧ Properties.zeroInterval.Blamed f := by
  have hf := ofZeroInterval_fails
  rcases build_blames Host.void ofZeroInterval (p := .zeroInterval) rfl (fun _ => rfl) Host.servesNothing_void () {} with ⟨made, h⟩ | h
  · rw [h] at hf
    cases hf
  · exact h

end Builder

end Telemetry
