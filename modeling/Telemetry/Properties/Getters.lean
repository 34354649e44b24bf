import Telemetry.Properties.Basic
import Telemetry.Properties.Duration
import Telemetry.Text.Split

/-! # Typed settings

Reading a setting as a truth value, a number, a duration, a list or a map. A setting without a value
reads as nothing; a value that does not parse is a fault that names the key as it was asked for. -/

namespace Telemetry.Properties

open Text

/-- Only `true` holds, in any case. -/
def bool? (p : Properties) (key : String) : Option Bool :=
  (p.string? key).map fun value => lowered value == "true"

def int? (p : Properties) (key : String) : Except Fault (Option Int) :=
  p.readWith key fun value =>
    match readWhole value.toList with
    | .value n => .ok n
    | _ => .error (.configuration (.notWhole key value))

def float? (p : Properties) (key : String) : Except Fault (Option Binary64) :=
  p.readWith key fun value =>
    match readReal? value.toList with
    | some x => .ok x
    | none => .error (.configuration (.notReal key value))

/-- The duration in milliseconds. A number with too many digits is a fault of its own kind. -/
def durationMillis? (p : Properties) (key : String) : Except Fault (Option Int) :=
  p.readWith key fun value =>
    match Duration.parse? (lower value.toList) with
    | none => .error (.configuration (.notDuration key value))
    | some (digits, unit) =>
      match readDigits? false digits with
      | some n => .ok (n * unit)
      | none => .error (.tooManyDigits digits.length)

/-- The entries between commas, trimmed, without the blank ones. -/
def listItems (cs : List Char) : List (List Char) :=
  ((fields ',' cs).map trim).filter (!·.isEmpty)

def list? (p : Properties) (key : String) : Option (List String) :=
  (p.string? key).map fun value => (listItems value.toList).map String.ofList

/-- The trimmed name and value around the first equals sign; the name must not be blank. -/
def mapEntry? (cs : List Char) : Option (String × String) :=
  match cut? '=' cs with
  | none => none
  | some (name, value) =>
    if (trim name).isEmpty then none
    else some (String.ofList (trim name), String.ofList (trim value))

/-- The `name=value` entries of a list; a repeated name keeps its place and takes its last value. -/
def map (p : Properties) (key : String) : Except Fault (OrderedMap String String) :=
  match p.string? key with
  | none => .ok .empty
  | some value =>
    match (listItems value.toList).mapM mapEntry? with
    | some entries => .ok (.ofList entries)
    | none => .error (.configuration (.notMap key value))

end Telemetry.Properties
