import SelfIsolation.Word

/-! # IPv4 and IPv6 addresses

The two address families as plain values: an IPv4 address has 32 bits, an IPv6
address has 128. The IPv6 form of an IPv4 address, `::ffff:a.b.c.d`, is called
mapped.
-/

namespace SelfIsolation

/-- An IPv4 address. -/
structure IPv4 where
  /-- The address as one number, first octet most significant. -/
  bits : BitVec 32
  deriving DecidableEq

/-- An IPv6 address. -/
structure IPv6 where
  /-- The address as one number, first octet most significant. -/
  bits : BitVec 128
  deriving DecidableEq

namespace IPv4

/-- The four octets, in the order they are written. -/
def octets (address : IPv4) : List (BitVec 8) := Word.split 8 4 address.bits.toNat

/-- The address with the given octets. -/
def ofOctets (octets : List (BitVec 8)) : IPv4 := ⟨BitVec.ofNat 32 (Word.join octets)⟩

/-- The mapped form: ten zero octets, two octets of ones, then the address. -/
def mapped (address : IPv4) : IPv6 := ⟨0xffff#96 ++ address.bits⟩

/-- The address 0.0.0.0. -/
def unspecified : IPv4 := ⟨0⟩

/-- The address 127.0.0.1. -/
def loopback : IPv4 := ⟨0x7f000001⟩

/-- Addresses of the network 127.0.0.0/8 denote the host itself. -/
def isLoopback (address : IPv4) : Bool := address.bits >>> 24 == 127#32

/-- Addresses of the network 224.0.0.0/4 denote groups. -/
def isMulticast (address : IPv4) : Bool := address.bits >>> 28 == 14#32

/-- The address 255.255.255.255 denotes every host of the link. -/
def isBroadcast (address : IPv4) : Bool := address.bits == BitVec.allOnes 32

end IPv4

namespace IPv6

/-- The sixteen octets, in the order they are sent. -/
def octets (address : IPv6) : List (BitVec 8) := Word.split 8 16 address.bits.toNat

/-- The address with the given octets. -/
def ofOctets (octets : List (BitVec 8)) : IPv6 := ⟨BitVec.ofNat 128 (Word.join octets)⟩

/-- The eight groups of sixteen bits, in the order they are written. -/
def groups (address : IPv6) : List (BitVec 16) := Word.split 16 8 address.bits.toNat

/-- The address with the given groups. -/
def ofGroups (groups : List (BitVec 16)) : IPv6 := ⟨BitVec.ofNat 128 (Word.join groups)⟩

/-- Holds of the mapped form of an IPv4 address. -/
def isMapped (address : IPv6) : Bool := address.bits >>> 32 == 0xffff#128

/-- The IPv4 address in the last four octets. -/
def tail (address : IPv6) : IPv4 := ⟨address.bits.setWidth 32⟩

/-- The IPv4 address of which this is the mapped form. -/
def toIPv4? (address : IPv6) : Option IPv4 := if address.isMapped then some address.tail else none

/-- The address `::`. -/
def unspecified : IPv6 := ⟨0⟩

/-- The address `::1`. -/
def loopback : IPv6 := ⟨1⟩

/-- Addresses of the network ff00::/8 denote groups. -/
def isMulticast (address : IPv6) : Bool := address.bits >>> 120 == 0xff#128

/-- Addresses of the network fe80::/10 are valid on one link only. -/
def isLinkLocal (address : IPv6) : Bool := address.bits >>> 118 == 0x3fa#128

end IPv6

/-- An address of either family, as sockets report it. -/
inductive IPAddress where
  | v4 (address : IPv4)
  /-- An IPv6 address, mapped or not. -/
  | v6 (address : IPv6)
  deriving DecidableEq

end SelfIsolation
