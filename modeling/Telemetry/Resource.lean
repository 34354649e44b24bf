import Telemetry.Datum
import Telemetry.Properties.Names

/-! # Resources

The attributes that every provider attaches to its telemetry. Only attributes with a name are kept;
of two resources merged the second wins. -/

namespace Telemetry

namespace Attribute

mutual

/-- A value as an attribute has it: maps inside it lose the entries without a name. -/
def named : Datum → Datum
  | .list items => .list (namedItems items)
  | .map entries => .map (namedEntries entries)
  | d => d

def namedItems : List Datum → List Datum
  | [] => []
  | d :: ds => named d :: namedItems ds

def namedEntries : List (String × Datum) → List (String × Datum)
  | [] => []
  | (name, d) :: es =>
    if name.isEmpty then namedEntries es else (name, named d) :: namedEntries es

end

/-- The attributes of a list that have a name, later values winning. -/
def clean (entries : List (String × Datum)) : OrderedMap String Datum :=
  .ofList (namedEntries entries)

/-- A list in round brackets, where one item alone has a comma behind it. -/
def bracketed : List String → String
  | [item] => "(" ++ item ++ ",)"
  | items => "(" ++ ", ".intercalate items ++ ")"

/-- The text of an attribute's value, whose lists are fixed. -/
def asText : Datum → String
  | .text s => s
  | d => d.shownWith bracketed

end Attribute

structure Resource where
  attributes : OrderedMap String Datum

namespace Resource

def ofAttributes (entries : List (String × Datum)) : Resource := ⟨Attribute.clean entries⟩

/-- The second resource's attributes win. -/
def merge (a b : Resource) : Resource := ⟨a.attributes.union b.attributes⟩

def get? (r : Resource) (name : String) : Option Datum := r.attributes.get? name

/-- What every resource starts from. -/
def base : Resource :=
  .ofAttributes [("telemetry.sdk.language", .text "python"),
    ("telemetry.sdk.name", .text "opentelemetry"), ("telemetry.sdk.version", .text "1.45.2")]

/-- The base with the name that stands in for a missing service name. -/
def unnamed : Resource :=
  base.merge (.ofAttributes [(Names.serviceNameAttribute, .text Names.defaultServiceName)])

end Resource

end Telemetry
