/-! # Words of a number

A number of fixed width is also a list of words of equal width, most significant
first. Octets, the groups of an IPv6 address and the two halves of a capability
set are all such words.
-/

namespace SelfIsolation.Word

/-- The `count` lowest words of a number, most significant first. -/
def split (width : Nat) : Nat → Nat → List (BitVec width)
  | 0, _ => []
  | count + 1, n => split width count (n >>> width) ++ [BitVec.ofNat width n]

theorem length_split (width count n : Nat) : (split width count n).length = count := by
  induction count generalizing n with
  | zero => rfl
  | succ count ih => rw [split, List.length_append, ih, List.length_singleton]

/-- The number that words denote, most significant first. -/
def join {width : Nat} (words : List (BitVec width)) : Nat :=
  words.foldl (fun value word => value <<< width + word.toNat) 0

end SelfIsolation.Word
