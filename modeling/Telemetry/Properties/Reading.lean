import Telemetry.Properties.Getters

/-! # Reading with defaults

A setting read as a value of a given kind. A default takes the place of a value that is missing, as
it is given; only for lists it is turned into a list, and maps have none. -/

namespace Telemetry

/-- What a setting is read as. -/
inductive Reading
  | text
  | truth
  | whole
  | real
  | duration
  | list
  | map
  deriving DecidableEq

/-- The elements of a default: those of a list, the characters of a text, the names of a map. -/
def Datum.elements (d : Datum) : Except Fault Datum :=
  if d.holds then
    match d with
    | .list items => .ok (.list items)
    | .text s => .ok (.texts (s.toList.map String.singleton))
    | .map entries => .ok (.texts (entries.map Prod.fst))
    | d => .error (.notIterable d.typeName)
  else .ok (.list [])

namespace Properties

def orDefault {α : Type} (write : α → Datum) (default : Datum) (r : Except Fault (Option α)) :
    Except Fault Datum :=
  r.map fun value => (value.map write).getD default

/-- The value of a setting as a datum, with a default if one is given. Without one, truth values
default to false and all others to nothing. -/
def read (p : Properties) (kind : Reading) (key : String) (default : Option Datum) :
    Except Fault Datum :=
  let given := default.getD .null
  match kind with
  | .text => orDefault .text given (.ok (p.string? key))
  | .truth => orDefault .bool (default.getD (.bool false)) (.ok (p.bool? key))
  | .whole => orDefault .int given (p.int? key)
  | .real => orDefault .float given (p.float? key)
  | .duration => orDefault .int given (p.durationMillis? key)
  | .list =>
    match p.list? key with
    | some items => .ok (.texts items)
    | none => given.elements
  | .map => (p.map key).map fun m => .map (m.entries.map fun e => (e.1, .text e.2))

end Properties

end Telemetry
