import SelfIsolation.Address.Native

/-! # Dual-stack addresses

An address of either family is one value of 128 bits: an IPv4 address is kept in
its mapped form. The family is read off the bits, so two addresses are equal
exactly when their bits are, and the order by octets mixes both families.
-/

namespace SelfIsolation

/-- An address family. -/
inductive Family where
  | v4
  | v6
  deriving DecidableEq

namespace Family

/-- The name of the family. -/
def name : Family → String
  | .v4 => "IPv4"
  | .v6 => "IPv6"

/-- The width of an address of the family. -/
def width : Family → Nat
  | .v4 => 32
  | .v6 => 128

end Family

/-- An address of either family. -/
structure Address where
  /-- The bits of the address, an IPv4 address in its mapped form. -/
  bits : BitVec 128
  deriving DecidableEq

namespace Address

/-- The IPv6 form of an address. -/
def toIPv6 (address : Address) : IPv6 := ⟨address.bits⟩

/-- The IPv4 form of an address of that family. -/
def toIPv4? (address : Address) : Option IPv4 := address.toIPv6.toIPv4?

/-- An address is IPv4 exactly when it is mapped. -/
def family (address : Address) : Family := if address.toIPv6.isMapped then .v4 else .v6

/-- Holds of IPv4 addresses. -/
def isIPv4 (address : Address) : Bool := address.family = .v4

/-- Holds of IPv6 addresses. -/
def isIPv6 (address : Address) : Bool := address.family = .v6

/-- An IPv6 address, which is IPv4 if it is mapped. -/
def ofIPv6 (address : IPv6) : Address := ⟨address.bits⟩

/-- An IPv4 address. -/
def ofIPv4 (address : IPv4) : Address := ofIPv6 address.mapped

/-- An address as sockets report it. -/
def ofIP : IPAddress → Address
  | .v4 address => ofIPv4 address
  | .v6 address => ofIPv6 address

/-- The address in the form of its own family. -/
def toIP (address : Address) : IPAddress :=
  match address.toIPv4? with
  | some native => .v4 native
  | none => .v6 address.toIPv6

/-- The sixteen octets, most significant first. -/
def octets (address : Address) : List (BitVec 8) := address.toIPv6.octets

/-- The address with the given octets. -/
def ofOctets (octets : List (BitVec 8)) : Address := ofIPv6 (IPv6.ofOctets octets)

/-- The IPv4 address 127.0.0.1. -/
def loopback4 : Address := ofIPv4 IPv4.loopback

/-- The IPv4 address 0.0.0.0. -/
def any4 : Address := ofIPv4 IPv4.unspecified

/-- The IPv6 address `::1`. -/
def loopback6 : Address := ofIPv6 IPv6.loopback

/-- The IPv6 address `::`. -/
def any6 : Address := ofIPv6 IPv6.unspecified

/-- The addresses with a name of their own. -/
def named : List Address := [loopback4, any4, loopback6, any6]

/-- Holds of the address that means any address of its family. -/
def isUnspecified (address : Address) : Bool :=
  match address.toIPv4? with
  | some native => native = IPv4.unspecified
  | none => address.toIPv6 = IPv6.unspecified

/-- Holds of addresses of the host itself. -/
def isLoopback (address : Address) : Bool :=
  match address.toIPv4? with
  | some native => native.isLoopback
  | none => address.toIPv6 = IPv6.loopback

/-- Holds of addresses of groups. -/
def isMulticast (address : Address) : Bool :=
  match address.toIPv4? with
  | some native => native.isMulticast
  | none => address.toIPv6.isMulticast

/-- Holds of addresses of single hosts: not unspecified, not a group, not the IPv4 broadcast. -/
def isUnicast (address : Address) : Bool :=
  !address.isUnspecified && !address.isMulticast && !address.toIPv4?.any IPv4.isBroadcast

/-- Holds of IPv6 addresses that are valid on one link only. -/
def isLinkLocal6 (address : Address) : Bool := address.isIPv6 && address.toIPv6.isLinkLocal

/-- Holds if the address is the given IPv4 address. -/
def equalsIPv4 (address : Address) (native : IPv4) : Bool := address.toIPv4? = some native

/-- Holds if the address is IPv6 and is the given IPv6 address. -/
def equalsIPv6 (address : Address) (native : IPv6) : Bool :=
  address.isIPv6 && address.toIPv6 = native

/-- Addresses are ordered by their octets, the first difference deciding. -/
instance : Ord Address where
  compare left right :=
    List.compareLex compare (left.octets.map BitVec.toNat) (right.octets.map BitVec.toNat)

/-- Addresses in ascending order. -/
def sort (addresses : List Address) : List Address :=
  addresses.mergeSort fun left right => (compare left right).isLE

end Address

end SelfIsolation
