import Telemetry.Proofs.Assembly.Routine

/-! # What an assembly looks at

Merging plugins only adds to a registry. The assembly that follows looks at the suppliers, unless it has been
given a snapshot, and then once at the chain of each kind. Nothing else that it does depends on what is
registered. `Routine.Looks` says this of routines, whatever outside code answers. -/

namespace Telemetry

open Assembly

inductive Look
  | suppliers
  | chain (k : Kind)

def Kind.resolved : List Kind := [.resource, .spanExporter, .sampler, .tracerProvider, .propagator]

def Builder.looks {W : Outside} (b : Builder W) : List Look :=
  (if b.properties.isNone then [.suppliers] else []) ++ Kind.resolved.map .chain

namespace Routine
variable {W : Outside} {α β : Type}

def look? : Routine W α → Option Look
  | resolve k _ => some (.chain k)
  | suppliers _ => some .suppliers
  | _ => none

def registers : Routine W α → List (Addition W)
  | add a _ => [a]
  | _ => []

/-- Just this is looked at, in this order, or the first part of it if something raises. -/
def Looks : Routine W α → List Look → Prop
  | done _, ls => ls = []
  | raise _, _ | fail _ _, _ => True
  | ask _ _ next, ls => ∀ a, (next a).Looks ls
  | pass _ next, ls | emit _ next, ls | add _ next, ls => next.Looks ls
  | resolve k next, ls => ∃ rest, ls = .chain k :: rest ∧ ∀ links, (next links).Looks rest
  | suppliers next, ls => ∃ rest, ls = .suppliers :: rest ∧ ∀ registered, (next registered).Looks rest

section
variable {host : Host W} {x x' : Routine W α} {s s' : Scene W} {ls more : List Look}

theorem registry_of_step (h : x.step host s = .inr (x', s')) : s'.registry = s.registry.extend x.registers := by
  cases x with
  | done a => cases h
  | raise f => cases h
  | ask r input next =>
    obtain ⟨answer, v, hv, -⟩ := run_ask host r (input s.registry) s
    rw [step_ask hv] at h
    cases h
    rfl
  | _ => cases h; rfl

namespace Looks

theorem bind {k : α → Routine W β} (hx : x.Looks ls) (hk : ∀ a, (k a).Looks more) :
    (x.bind k).Looks (ls ++ more) := by
  induction x generalizing ls with
  | done a =>
    cases hx
    exact hk a
  | raise f => trivial
  | ask r input next ih => exact fun a => ih a (hx a)
  | pass c next ih => exact ih hx
  | fail c f => trivial
  | emit e next ih => exact ih hx
  | add a next ih => exact ih hx
  | resolve kind next ih =>
    obtain ⟨rest, rfl, hnext⟩ := hx
    exact ⟨rest ++ more, rfl, fun links => ih links (hnext links)⟩
  | suppliers next ih =>
    obtain ⟨rest, rfl, hnext⟩ := hx
    exact ⟨rest ++ more, rfl, fun registered => ih registered (hnext registered)⟩

theorem quietly {k : α → Routine W β} (hx : x.Looks []) (hk : ∀ a, (k a).Looks more) : (x.bind k).Looks more :=
  hx.bind hk

theorem adding (hx : x.Looks ls) : ∀ added : List (Addition W), (x.adding added).Looks ls
  | [] => hx
  | _ :: added => adding hx added

theorem step (hx : x.Looks ls) (h : x.step host s = .inr (x', s')) :
    ∃ rest, ls = x.look?.toList ++ rest ∧ x'.Looks rest := by
  cases x with
  | done a => cases h
  | raise f => cases h
  | ask r input next =>
    obtain ⟨answer, v, hv, -⟩ := run_ask host r (input s.registry) s
    rw [step_ask hv] at h
    cases h
    refine ⟨ls, rfl, adding ?_ v.added⟩
    cases answer with
    | ok a => exact hx a
    | error f => trivial
  | fail c f => cases h; exact ⟨ls, rfl, trivial⟩
  | resolve kind next =>
    cases h
    obtain ⟨rest, rfl, hnext⟩ := hx
    exact ⟨rest, rfl, hnext _⟩
  | suppliers next =>
    cases h
    obtain ⟨rest, rfl, hnext⟩ := hx
    exact ⟨rest, rfl, hnext _⟩
  | _ => cases h; exact ⟨ls, rfl, hx⟩

end Looks

end

end Routine

namespace Apart

section
variable {W : Outside} {host : Host W} {α β : Type}

theorem looks_ask (r : Request W) (input : r.Input) : (ask r input : Apart host _).routine.Looks [] := fun _ => rfl

theorem looks_check (c : Check W) : ∀ r : Except Fault α, (check c r : Apart host _).routine.Looks []
  | .ok _ => rfl
  | .error _ => trivial

theorem looks_resolve (host : Host W) (k : Kind) : (resolve k : Apart host _).routine.Looks [.chain k] :=
  ⟨[], rfl, fun _ => rfl⟩

theorem looks_mapM {f : α → Assembly W β} {x : ∀ a, Apart host (f a)} (hx : ∀ a, (x a).routine.Looks []) :
    ∀ as : List α, (mapM x as).routine.Looks []
  | [] => rfl
  | a :: as => (hx a).bind fun _ => (looks_mapM hx as).bind fun _ => rfl

theorem looks_forM {f : α → Assembly W Unit} {x : ∀ a, Apart host (f a)} (hx : ∀ a, (x a).routine.Looks []) :
    ∀ as : List α, (forM x as).routine.Looks []
  | [] => rfl
  | a :: as => (hx a).bind fun _ => looks_forM hx as

theorem looks_runChain (k : Kind) (p : Properties) : ∀ (links : List (Link W)) (value : Artifact W k),
    (runChain k p links value : Apart host _).routine.Looks []
  | [], _ => rfl
  | _ :: links, _ => fun a => looks_runChain k p links a

end

section
variable {W : Outside} (host : Host W) (loader : W.Loader) (p : Properties)

theorem looks_merge : (merge host loader).routine.Looks [] := by
  have hconfigurer (plugin : W.Plugin) : (mergeConfigurer host plugin).routine.Looks [] := rfl
  have hprovider (plugin : W.Plugin) : (mergeProvider host plugin).routine.Looks [] := fun _ => rfl
  exact fun configurers => (looks_forM hconfigurer configurers).bind fun _ providers => looks_forM hprovider providers

theorem looks_load (group : String) : (load host loader group).routine.Looks [] := by
  refine .quietly (looks_ask _ _) fun plugins => .quietly (looks_mapM (fun plugin => ?_) plugins) fun _ => rfl
  exact (looks_check _ _).bind fun _ => rfl

theorem looks_loaded (group : String) : ∀ known, (loaded host loader group known).routine.Looks []
  | some _ => rfl
  | none => looks_load host loader group

theorem looks_createExporters {α : Type} (catalogue : ExporterCatalogue W α) : ∀ names known,
    (createExporters host loader p catalogue names known).routine.Looks []
  | [], _ => rfl
  | name :: names, known => by
    rw [createExporters]
    split
    · exact (looks_check _ _).bind fun _ => (looks_createExporters catalogue names known).bind fun _ => rfl
    · exact (looks_loaded host loader _ known).bind fun table => (looks_check _ _).bind fun _ _ =>
        (looks_createExporters catalogue names (some table)).bind fun _ => rfl

theorem looks_configureExporters {α : Type} (catalogue : ExporterCatalogue W α) :
    (configureExporters host loader p catalogue).routine.Looks [] :=
  (looks_check _ _).bind fun names => (looks_createExporters host loader p catalogue names none).bind fun _ => rfl

theorem looks_configureMeter (resource : Resource) : (configureMeter host loader p resource).routine.Looks [] :=
  (looks_check _ _).bind fun _ => (looks_configureExporters host loader p _).bind fun _ =>
    (looks_check _ _).bind fun _ => rfl

theorem looks_configureResource (chain : List (Link W)) : (configureResource host p chain).routine.Looks [] :=
  (looks_check _ _).bind fun _ => (looks_runChain .resource p chain _).bind fun _ =>
    (looks_check _ _).bind fun _ => rfl

theorem looks_customizeExporters (chain : List (Link W)) : ∀ created,
    (customizeExporters host p chain created).routine.Looks []
  | [] => rfl
  | _ :: created => (looks_runChain .spanExporter p chain _).bind fun _ =>
    (looks_customizeExporters chain created).bind fun _ => rfl

theorem looks_configureTracer (exporterChain samplerChain : List (Link W)) (settings : Component W .tracerProvider) :
    (configureTracer host loader p exporterChain samplerChain settings).routine.Looks [] :=
  (looks_check _ _).bind fun _ => (looks_runChain .sampler p samplerChain _).bind fun _ =>
    (looks_configureExporters host loader p _).bind fun _ => (looks_customizeExporters host p exporterChain _).bind
      fun _ => (looks_check _ _).bind fun _ => rfl

theorem looks_configureLogger (resource : Resource) : (configureLogger host loader p resource).routine.Looks [] :=
  (looks_configureExporters host loader p _).bind fun _ => (looks_check _ _).bind fun _ => rfl

theorem looks_createPropagators (chain : List (Link W)) : ∀ names known,
    (createPropagators host loader p chain names known).routine.Looks []
  | [], _ => rfl
  | name :: names, known => by
    rw [createPropagators]
    split
    · exact (looks_check _ _).bind fun _ => (looks_runChain .propagator p chain _).bind fun _ =>
        (looks_createPropagators chain names known).bind fun _ => rfl
    · exact (looks_loaded host loader _ known).bind fun table => (looks_check _ _).bind fun _ _ =>
        (looks_runChain .propagator p chain _).bind fun _ =>
          (looks_createPropagators chain names (some table)).bind fun _ => rfl

theorem looks_configurePropagators (chain : List (Link W)) :
    (configurePropagators host loader p chain).routine.Looks [] :=
  (looks_check _ _).bind fun names => (looks_createPropagators host loader p chain names none).bind fun _ => rfl

theorem looks_assembleFrom : (assembleFrom host loader p).routine.Looks (Kind.resolved.map .chain) := by
  refine (looks_resolve host .resource).bind fun chain => ?_
  refine .quietly (looks_configureResource host p chain) fun resource => ?_
  refine .quietly (looks_configureMeter host loader p resource) fun meter => ?_
  refine (looks_resolve host .spanExporter).bind fun exporterChain => ?_
  refine (looks_resolve host .sampler).bind fun samplerChain => ?_
  refine .quietly (looks_configureTracer host loader p exporterChain samplerChain _) fun initial => ?_
  refine (looks_resolve host .tracerProvider).bind fun chain => ?_
  refine .quietly (looks_runChain .tracerProvider p chain _) fun customized => ?_
  refine .quietly (looks_check _ _) fun settings => ?_
  refine .quietly (looks_configureLogger host loader p resource) fun logger => ?_
  refine (looks_resolve host .propagator).bind fun chain => ?_
  exact .quietly (looks_configurePropagators host loader p chain) fun propagators => rfl

theorem looks_supplied : (supplied host).routine.Looks [.suppliers] := by
  refine ⟨[], rfl, fun registered => .quietly (looks_mapM (fun supplier => ?_) registered) fun _ => rfl⟩
  exact looks_ask (.supply supplier) ()

theorem looks_assembling (b : Builder W) : (assembling host b).routine.Looks b.looks := by
  refine Routine.Looks.bind ?_ fun p => looks_assembleFrom host b.loader p
  obtain ⟨loader, registry, properties⟩ := b
  cases properties with
  | some p => rfl
  | none => exact (looks_supplied host).bind fun _ _ => rfl

end

end Apart

end Telemetry
