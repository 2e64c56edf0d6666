import SelfIsolation.Address.Text

/-! # Endpoints

An endpoint is an address with a port, as sockets report it: `a.b.c.d:port`, or
`[address]:port` with an optional zone number after the address. A dual-stack
address forgets the zone and the flow label.
-/

namespace SelfIsolation

/-- An address with a port. -/
inductive Endpoint where
  | v4 (address : IPv4) (port : UInt16)
  /-- An IPv6 endpoint with its flow label and zone. -/
  | v6 (address : IPv6) (port : UInt16) (flow : UInt32) (scope : UInt32)
  deriving DecidableEq

namespace Endpoint

/-- The address of an endpoint. -/
def address : Endpoint → IPAddress
  | .v4 address _ => .v4 address
  | .v6 address _ _ _ => .v6 address

/-- The port of an endpoint. -/
def port : Endpoint → UInt16
  | .v4 _ port => port
  | .v6 _ port _ _ => port

/-- A decimal number below `bound`. -/
def readBounded? (bound : Nat) (text : List Char) : Option Nat := do
  let value ← Numeral.readDecimal? text
  if value < bound then some value else none

/-- A port. -/
def readPort? (text : List Char) : Option UInt16 :=
  (readBounded? UInt16.size text).map UInt16.ofNat

/-- Splits a text at its first `separator`. -/
def cut? (separator : Char) (text : List Char) : Option (List Char × List Char) :=
  match text.dropWhile (· != separator) with
  | [] => none
  | _ :: after => some (text.takeWhile (· != separator), after)

/-- An IPv4 endpoint, `a.b.c.d:port`. -/
def readV4? (text : List Char) : Option Endpoint := do
  let (before, after) ← cut? ':' text
  return .v4 (← IPv4.read? before) (← readPort? after)

/-- The address and zone between the brackets of an IPv6 endpoint. -/
def readZoned? (text : List Char) : Option (IPv6 × UInt32) :=
  match cut? '%' text with
  | none => (IPv6.read? text).map fun address => (address, 0)
  | some (before, after) => do
    let address ← IPv6.read? before
    let scope ← readBounded? UInt32.size after
    return (address, UInt32.ofNat scope)

/-- An IPv6 endpoint, `[address]:port` or `[address%zone]:port`. -/
def readV6? : List Char → Option Endpoint
  | '[' :: text => do
    let (inside, after) ← cut? ']' text
    let (address, scope) ← readZoned? inside
    match after with
    | ':' :: digits => return .v6 address (← readPort? digits) 0 scope
    | _ => none
  | _ => none

/-- The endpoint that a text denotes. -/
def read? (text : List Char) : Option Endpoint :=
  match readV4? text with
  | some endpoint => some endpoint
  | none => readV6? text

/-- The endpoint as text; a zone of zero is not written. -/
def write : Endpoint → List Char
  | .v4 address port => address.write ++ ':' :: Numeral.decimal port.toNat
  | .v6 address port _ scope =>
    let zone := if scope = 0 then [] else '%' :: Numeral.decimal scope.toNat
    '[' :: address.write ++ zone ++ "]:".toList ++ Numeral.decimal port.toNat

end Endpoint

namespace Address

/-- The dual-stack address and the port of an endpoint. -/
def ofEndpoint (endpoint : Endpoint) : Address × UInt16 := (ofIP endpoint.address, endpoint.port)

/-- The endpoint at a port of an address, without flow label and zone. -/
def toEndpoint (address : Address) (port : UInt16) : Endpoint :=
  match address.toIPv4? with
  | some native => .v4 native port
  | none => .v6 address.toIPv6 port 0 0

end Address

end SelfIsolation
