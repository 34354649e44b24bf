import Telemetry.Text.Lowercase.Table

/-! # Lowercase text

Lowercasing of whole texts. Two rules go beyond a table of characters: a capital I with a dot
above becomes two characters, and a capital sigma becomes the final form at the end of a word. -/

namespace Telemetry.Text

/-- The lowercase of a character on its own. -/
def lowerChar (c : Char) : List Char :=
  if c.toNat = 0x130 then ['i', Char.ofNat 0x307]
  else
    match caseRuns.find? (·.covers c.toNat) with
    | some r => [Char.ofNat ((c.toNat : Int) + r.shift).toNat]
    | none => [c]

/-- Whether the nearest character that is not ignorable is cased. -/
def facesCased (cs : List Char) : Bool :=
  match cs.dropWhile isIgnorable with
  | c :: _ => isCased c
  | [] => false

/-- A sigma ends a word when a cased character comes before it and none comes after it. The text
before is given backwards. -/
def endsWord (before after : List Char) : Bool := facesCased before && !facesCased after

def lowerFrom (before : List Char) : List Char → List Char
  | [] => []
  | c :: after =>
    (if c.toNat = 0x3a3 then [Char.ofNat (if endsWord before after then 0x3c2 else 0x3c3)]
      else lowerChar c) ++ lowerFrom (c :: before) after

def lower (cs : List Char) : List Char := lowerFrom [] cs

def lowered (s : String) : String := String.ofList (lower s.toList)

end Telemetry.Text
