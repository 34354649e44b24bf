import Telemetry.Assembly.Builder
import Telemetry.Proofs.Assembly.Plan

/-! # The course of an assembly

Everything that an assembly asks of outside code, and every check of its own, in the one order in
which it does so: plugins, settings, resource, metrics, traces, the tracer settings as a whole, logs,
propagators. A chain is what is registered for its kind when the plan comes to it, so the registry is
carried along. -/

namespace Telemetry

open Plan (along each take)

/-- The names that a setting lists, each once, where it comes first; `none` stands for no name. -/
def Properties.configured (p : Properties) (key : String) (default : List String) : List String :=
  let listed := ((p.list? key).getD default).eraseDups
  if listed.contains Names.none then [] else listed

section
variable {W : Outside}

def Registry.chain (r : Registry W) (k : Kind) (p : Properties) : List (Step W) :=
  (r.resolve k).map fun link => .ask (.apply k link p)

/-- What the components of one setting are chosen from. -/
structure Offering (W : Outside) where
  key : String
  default : List String
  builtin : List String
  group : String
  create : W.Plugin → Properties → Request W

namespace Offering

def exporters (signal : Signal) : Offering W where
  key := (exporterCatalogue W signal).key
  default := [(exporterCatalogue W signal).default]
  builtin := [Names.otlp, Names.logging]
  group := (exporterCatalogue W signal).group
  create := .createExporter

def propagators : Offering W where
  key := Names.propagators
  default := Names.defaultPropagators
  builtin := ["tracecontext", "baggage"]
  group := Names.propagatorPlugins
  create := .createPropagator

def names (o : Offering W) (p : Properties) : List String := p.configured o.key o.default

def pluginNamed (host : Host W) (plugins : List W.Plugin) (name : String) : Option W.Plugin :=
  plugins.reverse.find? fun plugin =>
    match host.nameOf plugin with
    | .ok n => n = name
    | .error _ => false

variable (host : Host W) (o : Offering W) (p : Properties) (after : List (Step W))

/-- Creates the component of one name, which is followed by some steps. A name for which there is
nothing is not got past. -/
def component (plugins : List W.Plugin) (name : String) : List (Step W) :=
  if o.builtin.contains name then .check (.builtin o.key name) :: after
  else
    .check (.lookup o.key name) ::
      match pluginNamed host plugins name with
      | some plugin => .ask (o.create plugin p) :: after
      | none => []

/-- Creates the components of names in their order. The plugins are loaded once, right before the
first name that is not built in, and not at all without one. -/
def components (loader : W.Loader) (names : List String) (r : Registry W) : Plan W (Registry W) := do
  let r ← along r ((names.takeWhile o.builtin.contains).flatMap fun name => .check (.builtin o.key name) :: after)
  let others := names.dropWhile o.builtin.contains
  if others.isEmpty then return r
  let loaded ← take (.ask (.load loader o.group))
  along (r.extend loaded.added) (loaded.found.map (fun plugin => .check (.nameOf plugin)) ++
    others.flatMap (component host o p after loaded.found))

def selecting (loader : W.Loader) (r : Registry W) : Plan W (Registry W) := do
  let r ← along r [.check (.names o.key)]
  components host o p after loader (o.names p) r

end Offering

namespace Builder

/-! ## Plugins and settings -/

/-- The plugins are loaded and merged unless they were before: the configurers join the chain of the
tracer provider, and then each of the others registers what it likes. -/
def merging (b : Builder W) : Plan W (Registry W) :=
  if b.pluginsMerged then .done b.registry
  else do
    let configurers ← take (.ask (.load b.loader Names.tracerProviderConfigurers))
    let r := configurers.found.foldl (fun r plugin => r.add .tracerProvider (.configurer plugin))
      (b.registry.extend configurers.added)
    let providers ← take (.ask (.load b.loader Names.customizerProviders))
    along (r.extend providers.added) (providers.found.map fun plugin => .ask (.contribute plugin))

/-- A snapshot that was given is used as it is. Otherwise each supplier is called once, in the order
of registration, and then the environment is read. -/
def settling (b : Builder W) (r : Registry W) : Plan W (Properties × Registry W) :=
  match b.properties with
  | some p => .done (p, r)
  | none => do
    let supplied ← each (r.suppliers.map fun supplier => .ask (.supply supplier))
    let environment ← take (.ask .environment)
    return (.create (.layer (supplied.map Turn.source)) environment.source b.processProperties,
      (supplied ++ [environment]).foldl (fun r t => r.extend t.added) r)

/-! ## Providers -/

section
variable (host : Host W) (p : Properties) (loader : W.Loader)

def metering (r : Registry W) : Plan W (Registry W) := do
  let r ← along r [.check .interval]
  let r ← (Offering.exporters .metrics).selecting host p [] loader r
  along r [.check .readers]

/-- All exporters are created before the first of them is customized. Their chain and that of the
sampler are those that were registered before either is applied. -/
def tracing (r : Registry W) : Plan W (Registry W) := do
  let exporterChain := r.chain .spanExporter p
  let samplerChain := r.chain .sampler p
  let r ← along r [.check .sampler]
  let r ← along r samplerChain
  let r ← (Offering.exporters .traces).selecting host p [] loader r
  let r ← along r (((Offering.exporters .traces : Offering W).names p).flatMap fun _ => exporterChain)
  along r [.check (.processors .traces)]

def logging (r : Registry W) : Plan W (Registry W) := do
  let r ← (Offering.exporters .logs).selecting host p [] loader r
  along r [.check (.processors .logs)]

/-- Each propagator is customized before the next one is created. -/
def assembling (r : Registry W) : Plan W (Registry W) := do
  let r ← along r (.check .attributes :: r.chain .resource p ++ [.check .resource])
  let r ← metering host p loader r
  let r ← tracing host p loader r
  let r ← along r (r.chain .tracerProvider p)
  let r ← along r [.check .settings]
  let r ← logging host p loader r
  Offering.propagators.selecting host p (r.chain .propagator p) loader r

end

def course (host : Host W) (b : Builder W) : Plan W (Registry W) := do
  let r ← b.merging
  let (p, r) ← b.settling r
  assembling host p b.loader r

end Builder

end

end Telemetry
