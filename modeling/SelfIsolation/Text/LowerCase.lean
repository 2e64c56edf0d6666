import SelfIsolation.Text.CaseData

/-! # Lower case of text

Every character is replaced by its lower-case form. Two characters need more than
a table: the capital I with a dot becomes two characters, and the capital sigma
has a form of its own at the end of a word.
-/

namespace SelfIsolation.LowerCase

/-- Holds of a character in one of the ranges. -/
def inRanges (ranges : List (Nat × Nat)) (c : Char) : Bool :=
  ranges.any fun (first, last) => first ≤ c.toNat && c.toNat ≤ last

/-- Holds of characters that have or are a case form. -/
def isCased (c : Char) : Bool := inRanges CaseData.casedRanges c

/-- Holds of characters that the case of their surroundings passes over. -/
def isIgnorable (c : Char) : Bool := inRanges CaseData.ignorableRanges c

/-- The single lower-case form of a character. -/
def lowerChar (c : Char) : Char :=
  match CaseData.lowerRanges.find? fun range =>
      range.first ≤ c.toNat && c.toNat ≤ range.last && (c.toNat - range.first) % range.step = 0 with
  | some range => Char.ofNat (range.target + (c.toNat - range.first))
  | none => c

/-- Holds if the first character that is not passed over is cased. -/
def meetsCased (text : List Char) : Bool := (text.dropWhile isIgnorable).head?.any isCased

/-- The lower-case form of a capital sigma: final after a cased character and before none. -/
def lowerSigma (before after : List Char) : Char :=
  if meetsCased before && !meetsCased after then 'ς' else 'σ'

/-- Lower-cases what follows; `before` holds what precedes it, nearest first. -/
def lowerAfter (before : List Char) : List Char → List Char
  | [] => []
  | 'Σ' :: rest => lowerSigma before rest :: lowerAfter ('Σ' :: before) rest
  | 'İ' :: rest => 'i' :: '\u0307' :: lowerAfter ('İ' :: before) rest
  | c :: rest => lowerChar c :: lowerAfter (c :: before) rest

/-- A text in lower case. -/
def lower (text : String) : String := String.ofList (lowerAfter [] text.toList)

end SelfIsolation.LowerCase
