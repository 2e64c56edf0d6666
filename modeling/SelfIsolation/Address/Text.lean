import SelfIsolation.Address.Basic
import SelfIsolation.Address.NativeText

/-! # Text of dual-stack addresses

An IPv4 address is written as a dotted quad. An IPv6 address whose first twelve
octets are zero keeps its last four as a dotted quad, except near `::` and `::1`;
every other one is written in the usual way. The wildcard `*` stands for no
address in particular. A formatted text needs room for the longest text of its
kind and a terminator.
-/

namespace SelfIsolation.Address

/-- Holds of `::a.b.c.d` with one of its first two dotted octets not zero. -/
def isCompatible (address : Address) : Bool :=
  address.bits >>> 32 == 0 && address.bits >>> 16 != 0

/-- The address as text. -/
def write (address : Address) : List Char :=
  match address.toIPv4? with
  | some native => native.write
  | none =>
    if address.isCompatible then "::".toList ++ address.toIPv6.tail.write
    else address.toIPv6.write

/-- The address that a text of either family denotes. -/
def read? (text : List Char) : Option Address :=
  match IPv4.read? text with
  | some native => some (ofIPv4 native)
  | none => (IPv6.read? text).map ofIPv6

/-- The address that a string denotes. -/
def parse? (text : String) : Option Address := read? text.toList

instance : ToString Address := ⟨fun address => String.ofList address.write⟩

/-- The text that stands for no address in particular. -/
def wildcard : List Char := ['*']

/-- The text of an address, or the wildcard. -/
def writeOptional : Option Address → List Char
  | none => wildcard
  | some address => address.write

/-- The address that a text denotes, or the wildcard. -/
def readOptional? (text : List Char) : Option (Option Address) :=
  if text = wildcard then some none else (read? text).map some

/-- The room that a formatted text needs, its terminator included: two characters for the
wildcard, sixteen for an IPv4 address, forty-six for an IPv6 address. -/
def formatSize : Option Address → Nat
  | none => 2
  | some address =>
    match address.family with
    | .v4 => 16
    | .v6 => 46

/-- The room that suffices for every address. -/
def largestFormatSize : Nat := 46

/-- Writes an address, or the wildcard, into `room` characters. A room that might not hold every
text of the kind is refused, and no text is cut. -/
def format? (room : Nat) (address : Option Address) : Option (List Char) :=
  if room < formatSize address then none
  else if (writeOptional address).length ≤ room then some (writeOptional address)
  else none

end SelfIsolation.Address
