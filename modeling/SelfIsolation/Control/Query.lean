import SelfIsolation.Address.Block
import SelfIsolation.Address.Matching

/-! # Questions about addresses

What the control program says of an address, of a block of addresses, and of two
addresses, any of which but the block may be the wildcard.
-/

namespace SelfIsolation

/-- Why a question about addresses has no answer. -/
inductive QueryError where
  | notAddress (text : String)
  | notBlock (text : String)
  | unwritable (text : String)
  deriving DecidableEq

namespace QueryError

/-- What is said of a question without an answer. -/
def message : QueryError → String
  | .notAddress text => s!"Not an IPv4 or IPv6 address: {text}"
  | .notBlock text => s!"Not an address with a valid prefix length: {text}"
  | .unwritable text => s!"Couldn't format {text}"

instance : ToString QueryError := ⟨message⟩

end QueryError

namespace Query

/-- Reads an address or the wildcard. -/
def readAddress (text : String) : Except QueryError (Option Address) :=
  match Address.readOptional? text.toList with
  | some address => .ok address
  | none => .error (.notAddress text)

/-- The family of an address, or that it may be any. -/
def familyText : Option Address → String
  | some address => address.family.name
  | none => "any family"

/-- Shows an address with its family. -/
def showAddress (text : String) : Except QueryError String := do
  let address ← readAddress text
  match Address.format? Address.largestFormatSize address with
  | some written => return s!"{String.ofList written} ({familyText address})"
  | none => throw (.unwritable text)

/-- Shows the parts of a block. -/
def describe (block : Block) : String :=
  "\n".intercalate [
    s!"address: {block.address}",
    s!"family:  {block.family.name}",
    s!"length:  {block.nativeLength} ({block.length.toNat} unified)",
    s!"network: {block.network}"]

/-- Shows a block of addresses. -/
def showBlock (text : String) : Except QueryError String :=
  match Block.parse? text with
  | some block => .ok (describe block)
  | none => .error (.notBlock text)

/-- Says whether two addresses match. -/
def compareAddresses (left right : String) : Except QueryError Bool := do
  let leftAddress ← readAddress left
  let rightAddress ← readAddress right
  return Address.matchesOptional leftAddress rightAddress

end Query

end SelfIsolation
