import SelfIsolation.Address.Basic

/-! # Matching of optional addresses

No address matches every address. An unspecified address matches the addresses of
its family; any other one matches itself.
-/

namespace SelfIsolation.Address

/-- Holds of two optional addresses that may denote the same peer. -/
def matchesOptional : Option Address → Option Address → Bool
  | some left, some right =>
    if left.isUnspecified || right.isUnspecified then left.family = right.family
    else left = right
  | _, _ => true

end SelfIsolation.Address
