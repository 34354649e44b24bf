import Telemetry.Quantity
import Telemetry.Scripted.Raise

/-! # Sums and products of data

Numbers are added and multiplied, texts and lists are joined and repeated. A truth value counts as
one or zero. -/

namespace Telemetry.Scripted

def unsupported (operator : String) (a b : Datum) : Fault :=
  .unsupportedOperands operator a.typeName b.typeName

def cannotJoin (typeName : String) (b : Datum) : Fault :=
  typeError s!"can only concatenate {typeName} (not \"{b.typeName}\") to {typeName}"

def cannotRepeat (typeName : String) : Fault :=
  typeError s!"can't multiply sequence by non-int of type {Text.quoted typeName}"

def whole? : Datum → Option Int
  | .int n => some n
  | .bool b => some (if b then 1 else 0)
  | _ => none

def onNumbers (operator : String) (calculate : Quantity → Quantity → Quantity) (a b : Datum) :
    Except Fault Datum :=
  match Quantity.ofDatum? a, Quantity.ofDatum? b with
  | some x, some y =>
    if x.combines y then .ok (calculate x y).toDatum else .error (.overflow .real)
  | _, _ => .error (unsupported operator a b)

def joined (a b : Datum) : Except Fault Datum :=
  match a, b with
  | .text s, .text t => .ok (.text (s ++ t))
  | .list xs, .list ys => .ok (.list (xs ++ ys))
  | .text _, d | .list _, d => .error (cannotJoin a.typeName d)
  | a, b => onNumbers "+" .add a b

def isSequence : Datum → Bool
  | .text _ | .list _ => true
  | _ => false

def length : Datum → Nat
  | .text s => s.length
  | .list xs => xs.length
  | _ => 0

def longest : Nat := 4294967296

def wordLimit : Int := 9223372036854775807

def isText : Datum → Bool
  | .text _ => true
  | _ => false

/-- A text or a list, several times. The number of times is a word, and so is the length of a text;
memory is limited. -/
def repeated (a : Datum) (n : Int) : Except Fault Datum :=
  if n < -wordLimit - 1 ∨ wordLimit < n then .error (.overflow .count)
  else if isText a && wordLimit < length a * n then .error (.overflow .repetition)
  else if longest < length a * n.toNat then .error (.raised "MemoryError" "" false)
  else if length a = 0 then .ok a
  else
    match a with
    | .text s => .ok (.text (String.join (List.replicate n.toNat s)))
    | .list xs => .ok (.list (List.replicate n.toNat xs).flatten)
    | d => .ok d

def times (a b : Datum) : Except Fault Datum :=
  if isSequence a then
    match whole? b with
    | some n => repeated a n
    | none => .error (cannotRepeat b.typeName)
  else if isSequence b then
    match whole? a with
    | some n => repeated b n
    | none => .error (cannotRepeat a.typeName)
  else onNumbers "*" .mul a b

end Telemetry.Scripted
