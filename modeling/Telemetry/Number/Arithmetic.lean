import Telemetry.Number.Binary64

/-! # Sums and products

Binary64 arithmetic: the exact result, rounded once. -/

namespace Telemetry.Binary64

/-- The nearest number to an exact one; a zero has the given sign. -/
def ofRat (zeroNegative : Bool) (q : Rat) : Binary64 :=
  if q = 0 then zero zeroNegative else ofRatio (q < 0) q.num.natAbs q.den

def isNegative : Binary64 → Bool
  | .finite negative _ _ => negative
  | .infinite negative => negative
  | .nan => false

/-- A sum that is zero is negative only if both numbers are. -/
def add (x y : Binary64) : Binary64 :=
  match x, y with
  | .nan, _ | _, .nan => .nan
  | .infinite s, .infinite t => if s = t then .infinite s else .nan
  | .infinite s, _ | _, .infinite s => .infinite s
  | x, y => ofRat (x.isNegative && y.isNegative) (x.toRat?.getD 0 + y.toRat?.getD 0)

/-- The sign of a product is negative if the signs differ. Infinity times zero has no value. -/
def mul (x y : Binary64) : Binary64 :=
  let negative := x.isNegative != y.isNegative
  match x, y with
  | .nan, _ | _, .nan => .nan
  | .infinite _, z | z, .infinite _ => if z.isZero then .nan else .infinite negative
  | x, y => ofRat negative (x.toRat?.getD 0 * y.toRat?.getD 0)

end Telemetry.Binary64
