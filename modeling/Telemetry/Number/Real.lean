import Telemetry.Number.Shortest
import Telemetry.Number.Whole
import Telemetry.Text.Blank

/-! # Real numbers as text

Reading takes digits of any script with single underscores between them, a decimal point, an
exponent, and the names of the infinities and of the number that is none. Writing uses the shortest
decimal, always with a point or an exponent. -/

namespace Telemetry

open Text

/-- When a decimal is written positionally, and how wide its exponent is otherwise. -/
structure RealLayout where
  leastPoint : Int
  greatestPoint : Int
  exponentDigits : Nat

/-- Positional from `0.0001` to below `10 ^ 16`; exponents have a sign and two digits at least. -/
def realLayout : RealLayout := ⟨-3, 16, 2⟩

def digitChars (ds : List Nat) : List Char := ds.map Nat.digitChar

def exponentText (layout : RealLayout) (k : Int) : List Char :=
  let ds := Nat.toDigits 10 k.natAbs
  'e' :: (if k < 0 then '-' else '+') ::
    (List.replicate (layout.exponentDigits - ds.length) '0' ++ ds)

def Decimal.written (layout : RealLayout) (d : Decimal) : List Char :=
  let ds := digitChars d.digits
  if d.point < layout.leastPoint ∨ layout.greatestPoint < d.point then
    (match ds with
      | [] => []
      | [x] => [x]
      | x :: rest => x :: '.' :: rest) ++ exponentText layout (d.point - 1)
  else if d.point ≤ 0 then '0' :: '.' :: (List.replicate (-d.point).toNat '0' ++ ds)
  else
    let n := d.point.toNat
    if ds.length ≤ n then ds ++ List.replicate (n - ds.length) '0' ++ ['.', '0']
    else ds.take n ++ '.' :: ds.drop n

def Binary64.written : Binary64 → String
  | .nan => "nan"
  | .infinite negative => if negative then "-inf" else "inf"
  | .finite negative m e =>
    let sign := if negative then ['-'] else []
    String.ofList (sign ++
      if m = 0 then ['0', '.', '0'] else (Decimal.shortest m e).written realLayout)

/-- Drops underscores that stand between two digits; any other underscore spoils the text. -/
def withoutUnderscores? (afterDigit : Bool) : List Char → Option (List Char)
  | [] => some []
  | '_' :: rest =>
    match rest with
    | x :: more =>
      if afterDigit && isDigit x then (withoutUnderscores? true more).map (x :: ·) else none
    | [] => none
  | c :: rest => (withoutUnderscores? (isDigit c) rest).map (c :: ·)

/-- The exponent behind a significand, zero when there is none. -/
def readExponent? : List Char → Option Int
  | [] => some 0
  | c :: rest =>
    if c = 'e' ∨ c = 'E' then
      let (negative, body) :=
        match rest with
        | '-' :: r => (true, r)
        | '+' :: r => (false, r)
        | r => (false, r)
      match spanDigits body with
      | ([], _) => none
      | (ds, []) => some (if negative then -(natOfDigits ds : Int) else natOfDigits ds)
      | _ => none
    else none

/-- A significand with digits on at least one side of the point, and its exponent. -/
def readUnsigned? (negative : Bool) (cs : List Char) : Option Binary64 :=
  let (whole, rest) := spanDigits cs
  let (part, rest) :=
    match rest with
    | '.' :: r => spanDigits r
    | r => ([], r)
  let ds := whole ++ part
  if ds.isEmpty then none
  else
    (readExponent? rest).map fun k =>
      let significant := ds.dropWhile (· == 0)
      Binary64.ofDecimal negative (natOfDigits significant) significant.length (k - part.length)

/-- The word in lowercase, where only the letters A to Z have one. -/
def asciiLower (cs : List Char) : List Char :=
  cs.map fun c => if 'A' ≤ c ∧ c ≤ 'Z' then Char.ofNat (c.toNat + 32) else c

def readMagnitude? (negative : Bool) (cs : List Char) : Option Binary64 :=
  let word := String.ofList (asciiLower cs)
  if word = "inf" ∨ word = "infinity" then some (.infinite negative)
  else if word = "nan" then some .nan
  else (withoutUnderscores? false cs).bind (readUnsigned? negative)

/-- A number may be surrounded by blanks, but not by information separators. -/
def readReal? (cs : List Char) : Option Binary64 :=
  match trimBy isSpacing cs with
  | '-' :: r => readMagnitude? true r
  | '+' :: r => readMagnitude? false r
  | r => readMagnitude? false r

end Telemetry
