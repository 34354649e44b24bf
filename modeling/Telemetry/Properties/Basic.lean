import Telemetry.Fault
import Telemetry.Properties.Key

/-! # Properties

Settings from several sources in one snapshot. A source maps keys in any spelling to texts; a key
may also be set to nothing. Later sources win, and a key keeps the place where it first came. -/

namespace Telemetry

abbrev Source := OrderedMap String (Option String)

namespace Source

/-- Writes a source over settings that are already normal. -/
def writeOver (settings source : Source) : Source :=
  source.entries.foldl (fun m e => m.insert (Key.normalize e.1) e.2) settings

/-- The sources in order, later ones winning, under normal keys. -/
def layer (sources : List Source) : Source := sources.foldl writeOver .empty

end Source

/-- A snapshot of all settings under normal keys. -/
structure Properties where
  settings : Source

namespace Properties

def ofSource (source : Source) : Properties := ⟨Source.layer [source]⟩

/-- Suppliers give way to the environment, and that to what the process sets itself. -/
def create (supplied environment process : Source) : Properties :=
  ofSource (Source.layer [supplied, environment, process])

def contains (p : Properties) (key : String) : Bool := p.settings.contains (Key.normalize key)

def shown (p : Properties) : String := s!"ConfigProperties({p.settings.size} properties)"

/-- The trimmed value of a key; a key that is missing, set to nothing or blank has none. -/
def string? (p : Properties) (key : String) : Option String :=
  match p.settings.get? (Key.normalize key) with
  | some (some value) => if Text.allBlank value then none else some (Text.trimmed value)
  | _ => none

def readWith {α : Type} (p : Properties) (key : String) (read : String → Except Fault α) :
    Except Fault (Option α) :=
  match p.string? key with
  | none => .ok none
  | some value => (read value).map some

end Properties

end Telemetry
