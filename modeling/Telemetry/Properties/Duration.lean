import Telemetry.Number.Whole
import Telemetry.Text.Blank
import Telemetry.Text.Lowercase

/-! # Durations

A whole number and a unit, blanks allowed around both. Without a unit the number counts
milliseconds. -/

namespace Telemetry.Duration

open Text

def unitMillis? (unit : String) : Option Nat :=
  match unit with
  | "" | "ms" => some 1
  | "s" => some 1000
  | "m" => some 60000
  | "h" => some 3600000
  | "d" => some 86400000
  | _ => none

/-- The digits of a duration and the milliseconds of its unit, from lowercase text. -/
def parse? (cs : List Char) : Option (List Nat × Nat) :=
  let (digits, rest) := spanDigits (trimStart cs)
  if digits.isEmpty then none
  else (unitMillis? (String.ofList (trim rest))).map fun unit => (digits, unit)

end Telemetry.Duration
