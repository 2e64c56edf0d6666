import SelfIsolation.Address.Basic

/-! # Prefix lengths

A prefix length counts the leading bits of the unified form of an address, from 0
to 128. An IPv4 length counts from the end of the mapping, so it is shifted by
96. The mask of a length has that many leading ones.
-/

namespace SelfIsolation

/-- The number of leading bits that addresses of a block share. -/
structure PrefixLength where
  /-- The length in the unified form. -/
  toNat : Nat
  /-- No address has more than 128 bits. -/
  le_width : toNat ≤ 128
  deriving DecidableEq

namespace PrefixLength

/-- The number of bits before the IPv4 address in its mapped form. -/
def mappingWidth : Nat := 96

/-- The unified length `n`, if there is one. -/
def ofNat? (n : Nat) : Option PrefixLength := if h : n ≤ 128 then some ⟨n, h⟩ else none

/-- The unified length of an IPv4 length, if there is one. -/
def ofIPv4? (n : Nat) : Option PrefixLength :=
  if h : n ≤ 32 then some ⟨n + mappingWidth, by unfold mappingWidth; omega⟩ else none

/-- The length as addresses of a family count it. -/
def forFamily (length : PrefixLength) : Family → Nat
  | .v4 => length.toNat - mappingWidth
  | .v6 => length.toNat

/-- The bits that an address keeps under the mask of a length. No word is shifted by its whole
width, so the mask of no bits is a case of its own. -/
def netmask (length : PrefixLength) : BitVec 128 :=
  if empty : length.toNat = 0 then 0
  else
    let rest : Fin 128 := ⟨128 - length.toNat, by omega⟩
    BitVec.allOnes 128 <<< rest.val

end PrefixLength

namespace Address

/-- The address with all bits past a prefix length cleared. -/
def mask (address : Address) (length : PrefixLength) : Address :=
  ⟨address.bits &&& length.netmask⟩

end Address

end SelfIsolation
