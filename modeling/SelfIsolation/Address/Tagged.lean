import SelfIsolation.Address.Block
import SelfIsolation.Address.Endpoint

/-! # Tagged addresses

An address may be kept with its family as a tag beside its octets. The tag is set
when the address is made: for IPv4 addresses and for those with a name of their own
it is known, for all others it is read off the first twelve octets. Equality
compares the tags and the octets, the order the octets alone.
-/

namespace SelfIsolation

/-- An address with its family beside its octets. -/
structure TaggedAddress where
  family : Family
  /-- The sixteen octets, most significant first. -/
  octets : List (BitVec 8)
  length_octets : octets.length = 16
  deriving DecidableEq

/-- The address with its family as a tag. -/
def Address.tagged (address : Address) : TaggedAddress :=
  ⟨address.family, address.octets, Word.length_split 8 16 _⟩

namespace TaggedAddress

/-- The octets before an IPv4 address in its mapped form. -/
def mapping : List (BitVec 8) := List.replicate 10 0 ++ [0xff, 0xff]

/-- The IPv4 address 127.0.0.1. -/
def loopback4 : TaggedAddress := ⟨.v4, mapping ++ [127, 0, 0, 1], rfl⟩

/-- The IPv4 address 0.0.0.0. -/
def any4 : TaggedAddress := ⟨.v4, mapping ++ [0, 0, 0, 0], rfl⟩

/-- The IPv6 address `::1`. -/
def loopback6 : TaggedAddress := ⟨.v6, List.replicate 15 0 ++ [1], rfl⟩

/-- The IPv6 address `::`. -/
def any6 : TaggedAddress := ⟨.v6, List.replicate 16 0, rfl⟩

/-- The address with the given octets, IPv4 if they start with the mapping. -/
def ofOctets (octets : List (BitVec 8)) (whole : octets.length = 16) : TaggedAddress :=
  ⟨if octets.take 12 = mapping then .v4 else .v6, octets, whole⟩

/-- An IPv4 address, in its mapped form. -/
def ofIPv4 (quad : IPv4) : TaggedAddress :=
  ⟨.v4, mapping ++ quad.octets, by
    rw [List.length_append, IPv4.octets, Word.length_split]
    rfl⟩

/-- An IPv6 address, which is IPv4 if it is mapped. -/
def ofIPv6 (native : IPv6) : TaggedAddress := ofOctets native.octets (Word.length_split 8 16 _)

/-- An address as sockets report it. -/
def ofIP : IPAddress → TaggedAddress
  | .v4 native => ofIPv4 native
  | .v6 native => ofIPv6 native

/-- The address and the port of an endpoint. -/
def ofEndpoint (endpoint : Endpoint) : TaggedAddress × UInt16 :=
  (ofIP endpoint.address, endpoint.port)

/-- The IPv6 form of an address. -/
def toIPv6 (address : TaggedAddress) : IPv6 := IPv6.ofOctets address.octets

/-- The last four octets of an address that is tagged as IPv4. -/
def toIPv4? (address : TaggedAddress) : Option IPv4 :=
  match address.family with
  | .v4 => some (IPv4.ofOctets (address.octets.drop 12))
  | .v6 => none

/-- The address in the form of its tag. -/
def toIP (address : TaggedAddress) : IPAddress :=
  match address.toIPv4? with
  | some native => .v4 native
  | none => .v6 address.toIPv6

/-- The endpoint at a port of an address, without flow label and zone. -/
def toEndpoint (address : TaggedAddress) (port : UInt16) : Endpoint :=
  match address.toIPv4? with
  | some native => .v4 native port
  | none => .v6 address.toIPv6 port 0 0

/-- The octets as one number. -/
def toNat (address : TaggedAddress) : Nat := Word.join address.octets

/-- Holds if the address is the given IPv4 address. -/
def equalsIPv4 (address : TaggedAddress) (native : IPv4) : Bool := address.toIPv4? = some native

/-- Holds if the address is tagged as IPv6 and is the given IPv6 address. -/
def equalsIPv6 (address : TaggedAddress) (native : IPv6) : Bool :=
  address.family = .v6 && address.toIPv6 = native

/-- Addresses are ordered by their octets, the first difference deciding. -/
instance : Ord TaggedAddress where
  compare left right :=
    List.compareLex compare (left.octets.map BitVec.toNat) (right.octets.map BitVec.toNat)

/-- The address with all bits past a prefix length cleared. -/
def mask (address : TaggedAddress) (length : PrefixLength) : TaggedAddress :=
  ofIPv6 ⟨address.toIPv6.bits &&& length.netmask⟩

/-- The address that a text of either family denotes. -/
def read? (text : List Char) : Option TaggedAddress :=
  match IPv4.read? text with
  | some native => some (ofIPv4 native)
  | none => (IPv6.read? text).map ofIPv6

/-- The address and the unified length in a block text. -/
def readParts? (text : List Char) : Option (TaggedAddress × PrefixLength) := do
  let (before, after) ← Block.splitSlash? text
  if Address.largestFormatSize ≤ before.length then none
  let n ← Numeral.readDecimal? after
  match IPv6.read? before with
  | some native =>
    let address := ofIPv6 native
    if address.family = .v4 ∧ n < PrefixLength.mappingWidth then none
    return (address, ← PrefixLength.ofNat? n)
  | none => return (ofIPv4 (← IPv4.read? before), ← PrefixLength.ofIPv4? n)

end TaggedAddress

/-- A block whose address is tagged. -/
structure TaggedBlock where
  address : TaggedAddress
  /-- The number of leading bits that the block fixes. -/
  length : PrefixLength

/-- The block with the family of its address as a tag. -/
def Block.tagged (block : Block) : TaggedBlock := ⟨block.address.tagged, block.length⟩

namespace TaggedBlock

/-- The block of an address and a length, unless the length cuts the mapping of an IPv4 address. -/
def ofParts? (address : TaggedAddress) (length : PrefixLength) : Option TaggedBlock :=
  if address.family = .v4 ∧ length.toNat < PrefixLength.mappingWidth then none
  else some ⟨address, length⟩

/-- The block that a text denotes. -/
def read? (text : List Char) : Option TaggedBlock :=
  (TaggedAddress.readParts? text).map fun (address, length) => ⟨address, length⟩

/-- The first address of a block. -/
def network (block : TaggedBlock) : TaggedAddress := block.address.mask block.length

/-- Holds of the addresses that agree with a block on its fixed bits. The masked addresses are
compared with their tags. -/
def contains (block : TaggedBlock) (address : TaggedAddress) : Bool :=
  address.mask block.length = block.network

end TaggedBlock

end SelfIsolation
