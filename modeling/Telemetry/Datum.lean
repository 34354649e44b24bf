import Telemetry.Number.Real
import Telemetry.OrderedMap
import Telemetry.Text.Quoted

/-! # Data

Values whose shape is not known in advance: attribute values, details of an error, fields of a log
event, whatever a flush returns. -/

namespace Telemetry

inductive Datum
  | null
  | bool (b : Bool)
  | int (n : Int)
  | float (x : Binary64)
  | text (s : String)
  | list (items : List Datum)
  | map (entries : List (String × Datum))

namespace Datum

instance : Inhabited Datum := ⟨null⟩

def ofMap (m : OrderedMap String Datum) : Datum := .map m.entries

def texts (ss : List String) : Datum := .list (ss.map .text)

/-- Nothing, false, zero and everything empty do not hold. -/
def holds : Datum → Bool
  | null => false
  | bool b => b
  | int n => n != 0
  | float x => !x.isZero
  | text s => !s.isEmpty
  | list items => !items.isEmpty
  | map entries => !entries.isEmpty

/-- The second datum if the first holds, else the first. -/
def conjoin (a b : Datum) : Datum := if a.holds then b else a

def typeName : Datum → String
  | null => "NoneType"
  | bool _ => "bool"
  | int _ => "int"
  | float _ => "float"
  | text _ => "str"
  | list _ => "list"
  | map _ => "dict"

mutual

/-- How a value is shown, given how a list of shown items is. -/
def shownWith (bracketed : List String → String) : Datum → String
  | null => "None"
  | bool b => if b then "True" else "False"
  | int n => toString n
  | float x => x.written
  | text s => Text.quoted s
  | list items => bracketed (shownItems bracketed items)
  | map entries => "\x7b" ++ ", ".intercalate (shownEntries bracketed entries) ++ "\x7d"

def shownItems (bracketed : List String → String) : List Datum → List String
  | [] => []
  | d :: ds => d.shownWith bracketed :: shownItems bracketed ds

def shownEntries (bracketed : List String → String) : List (String × Datum) → List String
  | [] => []
  | (k, d) :: es =>
    (Text.quoted k ++ ": " ++ d.shownWith bracketed) :: shownEntries bracketed es

end

def shown (d : Datum) : String :=
  d.shownWith fun items => "[" ++ ", ".intercalate items ++ "]"

end Datum

end Telemetry
