import SelfIsolation.Capability.Basic
import SelfIsolation.Text.Numeral

/-! # Capability sets

A set of capabilities is a mask of 64 bits. Bits without a capability are kept as
they are, so every mask is a set. The text of a set lists the names in the order
of the bits and then the remaining bits as one mask.
-/

namespace SelfIsolation

/-- A set of capabilities, one bit each. -/
structure CapSet where
  bits : BitVec 64
  deriving DecidableEq

namespace CapSet

/-- The number of bits in a set. -/
def width : Nat := 64

/-- The set without members. -/
def empty : CapSet := ⟨0⟩

instance : EmptyCollection CapSet := ⟨empty⟩

instance : Inhabited CapSet := ⟨empty⟩

/-- Holds of the bits in a set; there is none from 64 on. -/
def containsBit (set : CapSet) (bit : Nat) : Bool := set.bits.getLsbD bit

/-- Holds of the members of a set. -/
def contains (set : CapSet) (capability : Capability) : Bool := set.containsBit capability.bit

instance : Membership Capability CapSet := ⟨fun set capability => set.contains capability⟩

instance (capability : Capability) (set : CapSet) : Decidable (capability ∈ set) :=
  inferInstanceAs (Decidable (set.contains capability = true))

/-- The set with one more bit. -/
def insertBit (set : CapSet) (bit : Nat) : CapSet := ⟨set.bits ||| BitVec.twoPow 64 bit⟩

/-- The set without a bit. -/
def eraseBit (set : CapSet) (bit : Nat) : CapSet := ⟨set.bits &&& ~~~BitVec.twoPow 64 bit⟩

/-- The set with one more capability. -/
def insert (set : CapSet) (capability : Capability) : CapSet := set.insertBit capability.bit

/-- The set without a capability. -/
def erase (set : CapSet) (capability : Capability) : CapSet := set.eraseBit capability.bit

/-- The set of the capabilities in a list. -/
def ofList (capabilities : List Capability) : CapSet := capabilities.foldl insert empty

/-- The set of the given bits. -/
def ofBits (bits : List Nat) : CapSet := bits.foldl insertBit empty

/-- The set of the lowest `count` bits. -/
def lowest (count : Nat) : CapSet := ofBits (List.range count)

/-- The set of every capability. -/
def all : CapSet := ofList Capability.all

instance : Inter CapSet := ⟨fun left right => ⟨left.bits &&& right.bits⟩⟩

instance : Union CapSet := ⟨fun left right => ⟨left.bits ||| right.bits⟩⟩

instance : Complement CapSet := ⟨fun set => ⟨~~~set.bits⟩⟩

instance : HasSubset CapSet := ⟨fun left right => left.bits &&& ~~~right.bits = 0⟩

instance (left right : CapSet) : Decidable (left ⊆ right) :=
  inferInstanceAs (Decidable (left.bits &&& ~~~right.bits = 0))

/-- Holds of the set without members. -/
def isEmpty (set : CapSet) : Bool := set = empty

/-- The members of a set in the order of their bits. -/
def toList (set : CapSet) : List Capability := Capability.all.filter set.contains

/-- The bits of a set that no capability has. -/
def unnamed (set : CapSet) : CapSet := set ∩ ~~~all

/-- The mask as text. -/
def mask (set : CapSet) : String := Numeral.mask set.bits.toNat

/-- The set as text. -/
def text (set : CapSet) : String :=
  if set.isEmpty then "(none)"
  else
    let names := ",".intercalate (set.toList.map Capability.name)
    if set.unnamed.isEmpty then names else s!"{names} +{set.unnamed.mask}"

instance : ToString CapSet := ⟨text⟩

/-- The lower and the upper half of the mask. -/
def words (set : CapSet) : BitVec 32 × BitVec 32 :=
  (set.bits.setWidth 32, (set.bits >>> 32).setWidth 32)

/-- The set with the given halves of its mask. -/
def ofWords (low high : BitVec 32) : CapSet := ⟨high ++ low⟩

end CapSet

end SelfIsolation
