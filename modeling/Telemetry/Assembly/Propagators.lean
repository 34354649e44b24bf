import Telemetry.Selection

/-! # Configured propagators

The propagators that the setting names. Each passes through the whole chain before the next one is
created. -/

namespace Telemetry

open Assembly

section
variable {W : Outside} (host : Host W) (loader : W.Loader) (chain : List (Link W))
  (p : Properties)

def createPropagators :
    List String → Option (Selection.Table W) → Assembly W (List (Customized W.Thing Propagator))
  | [], _ => pure []
  | name :: rest, known => do
    match Propagator.builtin? name with
    | some builtin =>
      let made ← check (.builtin Names.propagators name) (.ok builtin)
      let customized ← runChain host .propagator chain p (.proper made)
      return customized :: (← createPropagators rest known)
    | none =>
      let table ← Selection.loaded host loader Names.propagatorPlugins known
      let plugin ← check (.lookup Names.propagators name) (Selection.plugin table Names.propagators name)
      let made ← ask host (.createPropagator plugin p) ()
      let customized ← runChain host .propagator chain p (.proper made)
      return customized :: (← createPropagators rest (some table))

def configurePropagators : Assembly W (List (Customized W.Thing Propagator)) := do
  let names ← check (.names Names.propagators)
    (Selection.names p Names.propagators "propagators" Names.defaultPropagators)
  let made ← createPropagators host loader chain p names none
  emit (.propagatorsConfigured names)
  return made

end

end Telemetry
