import Telemetry.Fault

/-! # The time of a flush

A flush is given a number of milliseconds, and nothing that is flushed takes any time here. So all
that counts is whether there is time at all, and whether the number is one that metric readers can
work with. -/

namespace Telemetry

inductive FlushTime
  | spent
  | enough
  | beyondReal
  deriving DecidableEq

namespace FlushTime

def ofWhole (n : Int) : FlushTime :=
  if n ≤ 0 then spent else if (Binary64.ofInt n).isInfinite then beyondReal else enough

/-- A number that has no value is never over, and less than a microsecond is over at once. -/
def ofReal (x : Binary64) : FlushTime :=
  match x.toRat? with
  | some millis => if millis * 1000 < 1 then spent else enough
  | none => if x = .infinite true then spent else enough

/-- The time that a number gives. Milliseconds are first multiplied and then added to the time of
day, which texts and lists bear only once, and nothing and maps not at all. -/
def ofMillis : Datum → Except Fault FlushTime
  | .int n => .ok (ofWhole n)
  | .bool b => .ok (if b then enough else spent)
  | .float x => .ok (ofReal x)
  | .text s => .error (.unsupportedOperands "+" "int" (Datum.text s).typeName)
  | .list ds => .error (.unsupportedOperands "+" "int" (Datum.list ds).typeName)
  | d => .error (.unsupportedOperands "*" d.typeName "int")

def readerFault? : FlushTime → Option Fault
  | spent => some .readerTimedOut
  | beyondReal => some (.overflow .quotient)
  | enough => none

end FlushTime

end Telemetry
