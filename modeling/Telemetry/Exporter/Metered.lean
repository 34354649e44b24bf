import Telemetry.Exporter.Basic
import Telemetry.Quantity

/-! # Counting exported items

A counter with one point for the items exported and one for those whose export failed, and the
channel that counts what goes through it. -/

namespace Telemetry

namespace Instrument

def longestName : Nat := 255

def longestUnit : Nat := 63

def isNameChar (c : Char) : Bool := c.isAlphanum || ['_', '.', '-', '/'].contains c

/-- The name of an instrument is a letter and then letters, digits and a few marks. -/
def isName (s : String) : Bool :=
  match s.toList with
  | c :: rest => c.isAlpha && rest.all isNameChar && rest.length < longestName
  | [] => false

/-- The unit of an instrument is any short text in ASCII. -/
def isUnit (s : String) : Bool :=
  s.toList.all (fun c => c.toNat < 128) && s.length ≤ longestUnit

end Instrument

/-- A sum that grows. What was added since it was last settled is summed apart, because a sum of
real numbers depends on their order. -/
structure Total where
  settled : Quantity := .whole 0
  recent : Quantity := .whole 0

namespace Total

def add (t : Total) (amount : Quantity) : Total := { t with recent := t.recent.add amount }

def value (t : Total) : Quantity := t.settled.add t.recent

def canSettle (t : Total) : Bool := t.settled.combines t.recent

/-- Takes in what was added. What cannot be taken in is lost. -/
def settle (t : Total) : Total := ⟨if t.canSettle then t.value else t.settled, .whole 0⟩

/-- Settles totals in order, up to and with the first that cannot be settled. -/
def settleAll {κ : Type} : List (κ × Total) → List (κ × Total)
  | [] => []
  | (k, t) :: rest => (k, t.settle) :: if t.canSettle then settleAll rest else rest

end Total

structure ProcessedCounter where
  metric : String
  unit : String
  component : String
  /-- The totals by whether the export succeeded, in the order in which they began. -/
  totals : OrderedMap Bool Total := .empty

/-- A value of a metric, as a metric exporter receives it. -/
structure Point where
  metric : String
  unit : String
  description : String
  attributes : List (String × String)
  value : Quantity

namespace ProcessedCounter

/-- A counter that starts from zero. Case does not count in the name of a metric. -/
def make (metric unit component : String) : Except Fault ProcessedCounter :=
  if !Instrument.isName metric then .error (.notAnInstrument Instrument.longestName metric)
  else if !Instrument.isUnit unit then .error (.notAnInstrument Instrument.longestUnit unit)
  else .ok { metric := metric.map Char.toLower, unit, component }

def total (c : ProcessedCounter) (succeeded : Bool) : Total := (c.totals.get? succeeded).getD {}

/-- A total begins with the first amount that is not zero. -/
def add (c : ProcessedCounter) (amount : Quantity) (succeeded : Bool) : ProcessedCounter :=
  if amount.isZero then c
  else { c with totals := c.totals.insert succeeded ((c.total succeeded).add amount) }

/-- Adds an amount that someone else has measured. It must not be too large to be real, even if it
leaves no trace because it is not positive or not finite. -/
def record (c : ProcessedCounter) (amount : Quantity) (succeeded : Bool) :
    Except Fault ProcessedCounter :=
  if !amount.isReal then .error (.overflow .real)
  else if !amount.isPositive then .ok c
  else if (c.total succeeded).recent.combines amount then .ok (c.add amount succeeded)
  else .error (.overflow .real)

def description : String := "The number of items exported by the processor"

/-- A total that has begun is a point. -/
def pointOf (c : ProcessedCounter) (attributes : List (String × String)) (succeeded : Bool) :
    List Point :=
  match c.totals.get? succeeded with
  | some total => [⟨c.metric, c.unit, description, attributes, total.value⟩]
  | none => []

def points (c : ProcessedCounter) : List Point :=
  c.pointOf [("error.type", "export_failed"), ("otel.component.type", c.component)] false ++
    c.pointOf [("otel.component.type", c.component)] true

/-- Reads the points and settles the totals. There is nothing to read unless all can be settled. -/
def read (c : ProcessedCounter) : Except Fault (List Point) × ProcessedCounter :=
  (if c.totals.values.all Total.canSettle then .ok c.points else .error (.overflow .real),
    { c with totals := .ofList (Total.settleAll c.totals.entries) })

end ProcessedCounter

/-- Counts every batch that was sent without a fault. A log exporter without a flush counts as
flushed; a span exporter without one is a channel whose flush raises. -/
def metered {m : Type → Type} [Monad m] {α : Type} (count : Nat → Bool → m Unit)
    (c : Channel m α) : Channel m α where
  send batch := do
    let outcome ← c.send batch
    count batch.length outcome.succeeded
    return outcome
  flush := some fun timeout =>
    match c.flush with
    | some flush => flush timeout
    | none => pure (.bool true)
  close := c.close

end Telemetry
