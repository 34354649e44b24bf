import Telemetry.Host

/-! # Selecting components by name

A setting lists components by name. Names are taken once each; `none` stands alone and selects
nothing. What is not built in comes from the plugins of a group, which is loaded when the first such
name is met. -/

namespace Telemetry.Selection

variable {W : Outside}

/-- The names to create components for. -/
def names (p : Properties) (key noun : String) (default : List String) :
    Except Fault (List String) :=
  let listed := ((p.list? key).getD default).eraseDups
  if listed.contains Names.none then
    if 1 < listed.length then .error (.configuration (.noneAmongOthers key noun)) else .ok []
  else .ok listed

/-- Plugins by the name of their component; of two plugins with one name the later one counts. -/
abbrev Table (W : Outside) := OrderedMap String W.Plugin

/-- Loads the plugins of a group. -/
def load (host : Host W) (loader : W.Loader) (group : String) : Assembly W (Table W) := do
  let plugins ← Assembly.ask host (.load loader group) ()
  let named ← plugins.mapM fun plugin => do
    return (← Assembly.check (.nameOf plugin) (host.nameOf plugin), plugin)
  return .ofList named

/-- The plugins that are loaded already, or else are loaded now. -/
def loaded (host : Host W) (loader : W.Loader) (group : String) (known : Option (Table W)) :
    Assembly W (Table W) :=
  match known with
  | some table => pure table
  | none => load host loader group

/-- The plugin that a name stands for. -/
def plugin (table : Table W) (key name : String) : Except Fault W.Plugin :=
  match table.get? name with
  | some plugin => .ok plugin
  | none => .error (.configuration (.unrecognized key name))

end Telemetry.Selection
