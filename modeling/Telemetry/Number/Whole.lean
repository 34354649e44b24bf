import Telemetry.Text.Digit

/-! # Whole numbers as text

Digits of any script, one sign in front, single underscores between digits. A text with more
digits than the limit is well formed but not read. -/

namespace Telemetry

open Text

/-- The digits of a run in which single underscores may separate digits. -/
def digitRun? : List Char → Option (List Nat)
  | [] => none
  | c :: rest =>
    match digit? c with
    | none => none
    | some d =>
      match rest with
      | [] => some [d]
      | '_' :: more => (digitRun? more).map (d :: ·)
      | x :: more => (digitRun? (x :: more)).map (d :: ·)

def digitLimit : Nat := 4300

inductive WholeReading
  | value (n : Int)
  | tooLong (digits : Nat)
  | malformed
  deriving DecidableEq

/-- The number that the digits spell, unless there are too many of them. -/
def readDigits? (negative : Bool) (ds : List Nat) : Option Int :=
  if digitLimit < ds.length then none
  else some (if negative then -(natOfDigits ds : Int) else natOfDigits ds)

def readMagnitude (negative : Bool) (cs : List Char) : WholeReading :=
  match digitRun? cs with
  | none => .malformed
  | some ds =>
    match readDigits? negative ds with
    | some n => .value n
    | none => .tooLong ds.length

def readWhole : List Char → WholeReading
  | '-' :: cs => readMagnitude true cs
  | '+' :: cs => readMagnitude false cs
  | cs => readMagnitude false cs

end Telemetry
