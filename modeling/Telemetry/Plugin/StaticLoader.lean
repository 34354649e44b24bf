import Telemetry.OrderedMap

/-! # A loader with fixed plugins

Serves given plugins by group and counts how often each group was loaded. -/

namespace Telemetry

structure StaticLoader (π : Type) where
  plugins : OrderedMap String (List π) := .empty
  loadCounts : OrderedMap String Nat := .empty

namespace StaticLoader
variable {π : Type}

def add (l : StaticLoader π) (group : String) (plugin : π) : StaticLoader π :=
  { l with plugins := l.plugins.insert group (((l.plugins.get? group).getD []) ++ [plugin]) }

def ofList (entries : List (String × π)) : StaticLoader π :=
  entries.foldl (fun l e => l.add e.1 e.2) {}

def load (l : StaticLoader π) (group : String) : List π × StaticLoader π :=
  ((l.plugins.get? group).getD [],
    { l with loadCounts := l.loadCounts.insert group (((l.loadCounts.get? group).getD 0) + 1) })

end StaticLoader

end Telemetry
