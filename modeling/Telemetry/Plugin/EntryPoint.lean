import Telemetry.Host

/-! # Entry points

Named plugins that are loaded when they are asked for. An entry point gives a plugin, or a class
whose instance is the plugin. The first failure ends the loading of a group; it is reported with the
name of the entry point, unless it asks to leave the program. -/

namespace Telemetry

/-- What loading an entry point gives. -/
inductive Loaded (W : Outside)
  | plugin (p : W.Plugin)
  | class (instantiate : Foreign W W.Plugin)

structure EntryPoint (W : Outside) where
  name : String
  load : Foreign W (Loaded W)

namespace EntryPoint
variable {W : Outside}

def resolve (e : EntryPoint W) : Foreign W W.Plugin := do
  match ← e.load with
  | .plugin p => return p
  | .class instantiate => instantiate

def wrapped (e : EntryPoint W) (group : String) (f : Fault) : Fault :=
  if f.exits then f else .pluginLoad group e.name f

def loadGroup (group : String) : List (EntryPoint W) → Foreign W (List W.Plugin)
  | [] => pure []
  | e :: rest => do
    let p ← tryCatch e.resolve fun f => throw (e.wrapped group f)
    modify fun v => { v with events := v.events ++ [.pluginLoaded group e.name] }
    return p :: (← loadGroup group rest)

end EntryPoint

end Telemetry
