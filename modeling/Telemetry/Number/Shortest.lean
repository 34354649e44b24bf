import Telemetry.Number.Binary64

/-! # Shortest decimals

The fewest decimal digits that read back as the same binary64 number, and of those the nearest to
it. On the grid with a given number of digits only the two neighbours of the value can be nearest,
so each grid is tried with those two. -/

namespace Telemetry

/-- The number `0.d₁d₂… * 10 ^ point`. -/
structure Decimal where
  digits : List Nat
  point : Int
  deriving DecidableEq

/-- Compares `a * 10 ^ x` with `b * 2 ^ y`. -/
def compareTenTwo (a : Nat) (x : Int) (b : Nat) (y : Int) : Ordering :=
  compare (timesPower (timesPower a 10 x) 2 (-y)) (timesPower (timesPower b 2 y) 10 (-x))

namespace Decimal

/-- The position of the decimal point of `m * 2 ^ e`: the least `p` with `m * 2 ^ e < 10 ^ p`. -/
def pointOf (m : Nat) (e : Int) : Int :=
  let guess : Int := ((m.log2 : Int) + e) * 30103 / 100000
  ([guess - 1, guess, guess + 1, guess + 2].find? fun p => compareTenTwo 1 p m e == .gt).getD
    (guess + 3)

/-- Whether `c * 10 ^ q` rounds to `m * 2 ^ e`. The ends of the interval round to it when the
significand is even, and its lower half is shorter at a power of two. -/
def readsBack (m : Nat) (e : Int) (c : Nat) (q : Int) : Bool :=
  let below :=
    if m = Binary64.leadingBit ∧ Binary64.leastExponent < e then 4 * m - 1 else 4 * m - 2
  let low := compareTenTwo c q below (e - 2)
  let high := compareTenTwo c q (4 * m + 2) (e - 2)
  if m % 2 = 0 then low != .lt && high != .gt else low == .gt && high == .lt

/-- The greatest `c` with `c * 10 ^ q ≤ m * 2 ^ e`. -/
def floorAt (m : Nat) (e q : Int) : Nat :=
  timesPower (timesPower m 2 e) 10 (-q) / timesPower (timesPower 1 2 (-e)) 10 q

/-- The neighbour of `m * 2 ^ e` on the grid of multiples of `10 ^ q` that reads back, the nearer
one if both do, the even one if they are equally near. -/
def onGrid? (m : Nat) (e q : Int) : Option Nat :=
  let c := floorAt m e q
  match readsBack m e c q, readsBack m e (c + 1) q with
  | false, false => none
  | true, false => some c
  | false, true => some (c + 1)
  | true, true =>
    match compareTenTwo (2 * c + 1) q (2 * m) e with
    | .gt => some c
    | .lt => some (c + 1)
    | .eq => some (if c % 2 = 0 then c else c + 1)

/-- `c * 10 ^ q` without trailing zeros. -/
def ofScaled (c : Nat) (q : Int) : Decimal :=
  let ds := (Nat.toDigits 10 c).map fun d => d.toNat - 48
  ⟨(ds.reverse.dropWhile (· == 0)).reverse, ds.length + q⟩

/-- The shortest decimal of `m * 2 ^ e`, where `m` is not zero. Seventeen digits always suffice. -/
def shortest (m : Nat) (e : Int) : Decimal :=
  let p := pointOf m e
  ((List.range 17).findSome? fun n =>
    let q := p - (n + 1 : Nat)
    (onGrid? m e q).map (ofScaled · q)).getD (ofScaled (floorAt m e (p - 17)) (p - 17))

end Decimal

end Telemetry
