/-! # Binary64 numbers

Double precision numbers by their value: a sign, a whole significand and a power of two. A ratio of
whole numbers has one nearest binary64 number, a tie going to the even significand; it is found
in whole numbers, without rounding on the way. -/

namespace Telemetry

/-- `finite negative m e` stands for `± m * 2 ^ e`. -/
inductive Binary64
  | finite (negative : Bool) (significand : Nat) (exponent : Int)
  | infinite (negative : Bool)
  | nan
  deriving DecidableEq

/-- The whole number nearest to `num / den`, a tie going to the even one. -/
def roundHalfEven (num den : Nat) : Nat :=
  let q := num / den
  let r := num % den
  if 2 * r < den then q else if den < 2 * r then q + 1 else if q % 2 = 0 then q else q + 1

/-- `n * base ^ k`, and `n` itself when the exponent is negative. -/
def timesPower (n base : Nat) (k : Int) : Nat := n * Nat.pow base k.toNat

/-- `n * 2 ^ e` as a ratio. -/
def dyadic (n : Nat) (e : Int) : Nat × Nat := (timesPower n 2 e, timesPower 1 2 (-e))

namespace Binary64

def leastExponent : Int := -1074

def greatestExponent : Int := 971

def leadingBit : Nat := Nat.pow 2 52

def zero (negative : Bool) : Binary64 := .finite negative 0 leastExponent

/-- The exponent of the last place of the significand of `num / den`: the significand has 53 binary
digits, fewer only at the least exponent. -/
def lastPlace (num den : Nat) : Int :=
  let guess : Int := (num.log2 : Int) - den.log2 - 52
  let e := if timesPower num 2 den.log2 < timesPower den 2 num.log2 then guess - 1 else guess
  if e < leastExponent then leastExponent else e

def inPlaces (num den : Nat) (e : Int) : Nat :=
  roundHalfEven (timesPower num 2 (-e)) (timesPower den 2 e)

/-- A significand and its exponent; a significand that reached the next power of two is halved. -/
def pack (negative : Bool) (m : Nat) (e : Int) : Binary64 :=
  let (m, e) := if m = 2 * leadingBit then (leadingBit, e + 1) else (m, e)
  if greatestExponent < e then .infinite negative else .finite negative m e

def ofRatio (negative : Bool) (num den : Nat) : Binary64 :=
  if num = 0 then zero negative
  else
    let e := lastPlace num den
    pack negative (inPlaces num den e) e

def ofInt (n : Int) : Binary64 := ofRatio (n < 0) n.natAbs 1

/-- The number nearest to `± n * 10 ^ e`, where `n` has `digits` digits. Beyond the range of the
format the size alone decides. -/
def ofDecimal (negative : Bool) (n digits : Nat) (e : Int) : Binary64 :=
  if n = 0 then zero negative
  else if 400 < e + digits then .infinite negative
  else if e + digits < -400 then zero negative
  else ofRatio negative (timesPower n 10 e) (timesPower 1 10 (-e))

def isZero : Binary64 → Bool
  | .finite _ m _ => m == 0
  | _ => false

def isInfinite : Binary64 → Bool
  | .infinite _ => true
  | _ => false

/-- Whether the value lies between zero and one, both included; a zero of either sign does. -/
def inUnitInterval : Binary64 → Bool
  | .finite negative m e =>
    let (num, den) := dyadic m e
    m == 0 || (!negative && num ≤ den)
  | _ => false

/-- `x * 2 ^ k` as the nearest whole number, zero for a number that has no value. -/
def scaled (x : Binary64) (k : Nat) : Int :=
  match x with
  | .finite negative m e =>
    let (num, den) := dyadic m (e + k)
    if negative then -(roundHalfEven num den : Int) else roundHalfEven num den
  | _ => 0

/-- The exact value of a finite number. -/
def toRat? : Binary64 → Option Rat
  | .finite negative m e =>
    let (num, den) := dyadic m e
    some (mkRat (if negative then -(num : Int) else num) den)
  | _ => none

end Binary64

end Telemetry
