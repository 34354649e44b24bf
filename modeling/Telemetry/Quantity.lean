import Telemetry.Datum
import Telemetry.Number.Arithmetic

/-! # Quantities

Numbers as they were given: whole ones, which are exact at any size, and real ones. Where the two
meet, a whole number counts as the real one that is nearest, unless it is too large to have one. -/

namespace Telemetry

inductive Quantity
  | whole (n : Int)
  | real (x : Binary64)

namespace Quantity

/-- A truth value counts as one or zero. -/
def ofDatum? : Datum → Option Quantity
  | .int n => some (whole n)
  | .bool b => some (whole (if b then 1 else 0))
  | .float x => some (real x)
  | _ => none

def toDatum : Quantity → Datum
  | whole n => .int n
  | real x => .float x

/-- The exact value, zero where there is none. -/
def toRat : Quantity → Rat
  | whole n => n
  | real x => x.toRat?.getD 0

/-- The nearest real number; one that is too large counts as infinite. -/
def toReal : Quantity → Binary64
  | whole n => .ofInt n
  | real x => x

/-- Whether the number is at most as large as real numbers are. -/
def isReal : Quantity → Bool
  | whole n => !(Binary64.ofInt n).isInfinite
  | real _ => true

def isZero : Quantity → Bool
  | whole n => n == 0
  | real x => x.isZero

def isPositive : Quantity → Bool
  | whole n => 0 < n
  | real x => x.toRat?.any fun r => 0 < r

/-- Whether two numbers can be calculated with: whole ones always can. -/
def combines : Quantity → Quantity → Bool
  | whole _, whole _ => true
  | a, b => a.isReal && b.isReal

def add : Quantity → Quantity → Quantity
  | whole m, whole n => whole (m + n)
  | a, b => real (a.toReal.add b.toReal)

def mul : Quantity → Quantity → Quantity
  | whole m, whole n => whole (m * n)
  | a, b => real (a.toReal.mul b.toReal)

end Quantity

end Telemetry
