import SelfIsolation.Address.PrefixLength
import SelfIsolation.Address.Text

/-! # Address blocks

A block is an address with a prefix length; it holds the addresses that agree
with it on that many leading bits. The length of an IPv4 block is never shorter
than the mapping. The text of a block is `address/length`, the length counted as
the family counts it. A dotted quad takes an IPv4 length; IPv6 notation takes a
unified one, also for a mapped address.
-/

namespace SelfIsolation

/-- An address with the number of leading bits that a block fixes. -/
structure Block where
  address : Address
  /-- The number of leading bits that the block fixes. -/
  length : PrefixLength
  /-- The mapping belongs to the fixed bits of an IPv4 block. -/
  covers_mapping : address.isIPv4 → PrefixLength.mappingWidth ≤ length.toNat
  deriving DecidableEq

namespace Block

/-- The block of an address and a length, unless the length cuts the mapping of an IPv4 address. -/
def ofParts? (address : Address) (length : PrefixLength) : Option Block :=
  if h : address.isIPv4 → PrefixLength.mappingWidth ≤ length.toNat then some ⟨address, length, h⟩
  else none

/-- The family of a block. -/
def family (block : Block) : Family := block.address.family

/-- The first address of a block. -/
def network (block : Block) : Address := block.address.mask block.length

/-- Holds of the addresses that agree with a block on its fixed bits. -/
def contains (block : Block) (address : Address) : Bool :=
  address.mask block.length = block.network

/-- The length as the family of the block counts it. -/
def nativeLength (block : Block) : Nat := block.length.forFamily block.family

/-- The block as text. -/
def write (block : Block) : List Char :=
  block.address.write ++ '/' :: Numeral.decimal block.nativeLength

instance : ToString Block := ⟨fun block => String.ofList block.write⟩

/-- Splits a text at its first `/`. -/
def splitSlash? (text : List Char) : Option (List Char × List Char) :=
  match text.dropWhile (· != '/') with
  | [] => none
  | _ :: after => some (text.takeWhile (· != '/'), after)

/-- The address and the unified length in a block text. IPv6 notation is tried first and takes
the length as it stands, at least the mapping for a mapped address; a dotted quad takes an IPv4
length. Address text with no room for a terminator is refused unread. -/
def readParts? (text : List Char) : Option (Address × PrefixLength) := do
  let (before, after) ← splitSlash? text
  if Address.largestFormatSize ≤ before.length then none
  let n ← Numeral.readDecimal? after
  match IPv6.read? before with
  | some native =>
    let address := Address.ofIPv6 native
    if address.isIPv4 ∧ n < PrefixLength.mappingWidth then none
    return (address, ← PrefixLength.ofNat? n)
  | none => return (Address.ofIPv4 (← IPv4.read? before), ← PrefixLength.ofIPv4? n)

/-- The block that a text denotes. -/
def read? (text : List Char) : Option Block := do
  let (address, length) ← readParts? text
  ofParts? address length

/-- The block that a string denotes. -/
def parse? (text : String) : Option Block := read? text.toList

end Block

end SelfIsolation
