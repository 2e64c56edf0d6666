import SelfIsolation.Proofs.Address.Tagged

/-! # Conversions between kinds of addresses

An address can be taken apart into octets, into the form of its family, and into an
endpoint, and is found again in each of them. An endpoint that is split into an
address and a port keeps its family unless it was mapped, and loses its flow label
and its zone (`SelfIsolation.Endpoint.settled`). So exactly the endpoints that have
none of these to lose are found again
(`SelfIsolation.TaggedAddress.conversions_exact`).
-/

namespace SelfIsolation

namespace IPv6

theorem toIPv4?_of_mapped {address : IPv6} (mapped : address.isMapped = true) :
    address.toIPv4? = some address.tail := if_pos mapped

theorem toIPv4?_of_unmapped {address : IPv6} (unmapped : ¬ address.isMapped = true) :
    address.toIPv4? = none := if_neg unmapped

end IPv6

namespace Endpoint

/-- What is left of an endpoint that is split into a dual-stack address and a port. -/
def settled : Endpoint → Endpoint
  | .v4 address port => .v4 address port
  | .v6 address port _ _ =>
    if address.isMapped then .v4 address.tail port else .v6 address port 0 0

/-- Nothing is lost of IPv4 endpoints, nor of unmapped IPv6 endpoints without flow label and
zone. -/
theorem settled_eq_iff {endpoint : Endpoint} :
    endpoint.settled = endpoint ↔ ∀ address port flow scope,
      endpoint = .v6 address port flow scope →
        ¬ address.isMapped = true ∧ flow = 0 ∧ scope = 0 := by
  cases endpoint with
  | v4 address port => exact iff_of_true rfl fun _ _ _ _ => nofun
  | v6 address port flow scope =>
      rw [settled]
      by_cases mapped : address.isMapped = true
      · rw [if_pos mapped]
        exact iff_of_false nofun fun plain => (plain _ _ _ _ rfl).1 mapped
      · rw [if_neg mapped]
        constructor
        · rintro same address port flow scope ⟨⟩
          simp only [v6.injEq, true_and] at same
          exact ⟨mapped, same.1.symm, same.2.symm⟩
        · intro plain
          obtain ⟨-, rfl, rfl⟩ := plain _ _ _ _ rfl
          rfl

end Endpoint

namespace Address

variable (address : Address) (port : UInt16)

theorem ofOctets_octets : ofOctets address.octets = address := by
  rw [ofOctets, octets, IPv6.ofOctets_octets]
  rfl

/-- An address is found again in the form of its family. -/
theorem ofIP_toIP : ofIP address.toIP = address := by
  rw [toIP]
  cases quad : address.toIPv4? with
  | some native => exact (toIPv4?_eq_some_iff.mp quad).symm
  | none => rfl

/-- The endpoint of an address has the form of its family as its address. -/
theorem address_toEndpoint : (address.toEndpoint port).address = address.toIP := by
  rw [toEndpoint, toIP]
  cases address.toIPv4? <;> rfl

theorem port_toEndpoint : (address.toEndpoint port).port = port := by
  rw [toEndpoint]
  cases address.toIPv4? <;> rfl

/-- An address and a port are found again in their endpoint. -/
theorem ofEndpoint_toEndpoint : ofEndpoint (address.toEndpoint port) = (address, port) := by
  rw [ofEndpoint, address_toEndpoint, port_toEndpoint, ofIP_toIP]

variable (endpoint : Endpoint)

/-- An endpoint comes back from its address and port as far as it is settled by them. -/
theorem toEndpoint_ofEndpoint :
    (ofEndpoint endpoint).1.toEndpoint (ofEndpoint endpoint).2 = endpoint.settled := by
  cases endpoint with
  | v4 native port =>
      have quad : (ofIPv4 native).toIPv4? = some native := toIPv4?_eq_some_iff.mpr rfl
      change (ofIPv4 native).toEndpoint port = .v4 native port
      rw [toEndpoint, quad]
  | v6 native port flow scope =>
      have same : (ofIPv6 native).toIPv4? = native.toIPv4? := rfl
      change (ofIPv6 native).toEndpoint port = Endpoint.settled (.v6 native port flow scope)
      rw [toEndpoint, same, Endpoint.settled]
      by_cases mapped : native.isMapped = true
      · rw [IPv6.toIPv4?_of_mapped mapped, if_pos mapped]
      · rw [IPv6.toIPv4?_of_unmapped mapped, if_neg mapped]
        rfl

end Address

namespace TaggedAddress

/-! ## Tagged addresses are converted alike -/

variable (address : Address) (port : UInt16)

/-- A tagged address is found again in its octets. -/
theorem ofOctets_tagged :
    ofOctets address.tagged.octets address.tagged.length_octets = address.tagged := by
  rw [ofOctets_eq]
  exact congrArg Address.tagged address.ofOctets_octets

theorem ofIPv6_tagged : ofIPv6 address.tagged.toIPv6 = address.tagged := by
  rw [toIPv6_tagged, ofIPv6_eq]
  rfl

/-- A tagged address has the form of its family that it has without the tag. -/
theorem toIP_tagged : address.tagged.toIP = address.toIP := by
  cases native : address.toIPv4? with
  | none => simp only [toIP, Address.toIP, toIPv4?_tagged, toIPv6_tagged, native]
  | some found => simp only [toIP, Address.toIP, toIPv4?_tagged, native]

/-- A tagged address has the endpoints that it has without the tag. -/
theorem toEndpoint_tagged : address.tagged.toEndpoint port = address.toEndpoint port := by
  cases native : address.toIPv4? with
  | none => simp only [toEndpoint, Address.toEndpoint, toIPv4?_tagged, toIPv6_tagged, native]
  | some found => simp only [toEndpoint, Address.toEndpoint, toIPv4?_tagged, native]

/-- The tagged address of an endpoint is the address of the endpoint, tagged. -/
theorem ofEndpoint_eq (endpoint : Endpoint) :
    ofEndpoint endpoint =
      ((Address.ofEndpoint endpoint).1.tagged, (Address.ofEndpoint endpoint).2) := by
  rw [ofEndpoint, ofIP_eq]
  rfl

/-- Splitting an endpoint and joining its parts again leaves what is settled of it. -/
theorem toEndpoint_ofEndpoint (endpoint : Endpoint) :
    (ofEndpoint endpoint).1.toEndpoint (ofEndpoint endpoint).2 = endpoint.settled := by
  rw [ofEndpoint_eq, toEndpoint_tagged, Address.toEndpoint_ofEndpoint]

/-- **Conversions are exact.** Every address is found again in its octets, in its IPv6 form, in the
form of its family and, with the port, in its endpoint, and it has an IPv4 form exactly if it is
made of that. So is every tagged address that can be made, which is converted as the address without
the tag. An endpoint that is split and joined again stays the same if it is IPv4, becomes IPv4 if it
is mapped, and otherwise loses its flow label and its zone; so exactly those come back that have
none of these to lose. -/
theorem conversions_exact :
    (∀ (address : Address) (port : UInt16),
      Address.ofOctets address.octets = address ∧
      Address.ofIPv6 address.toIPv6 = address ∧
      Address.ofIP address.toIP = address ∧
      Address.ofEndpoint (address.toEndpoint port) = (address, port) ∧
      ∀ native, address.toIPv4? = some native ↔ address = .ofIPv4 native) ∧
    (∀ address : TaggedAddress, address.Built → ∀ port : UInt16,
      ofOctets address.octets address.length_octets = address ∧
      ofIPv6 address.toIPv6 = address ∧
      ofIP address.toIP = address ∧
      ofEndpoint (address.toEndpoint port) = (address, port) ∧
      (∀ native, address.toIPv4? = some native ↔ address = ofIPv4 native) ∧
      ∃ plain : Address, address = plain.tagged ∧ address.toIP = plain.toIP ∧
        address.toEndpoint port = plain.toEndpoint port) ∧
    ∀ endpoint : Endpoint,
      let joined := (ofEndpoint endpoint).1.toEndpoint (ofEndpoint endpoint).2
      (∀ native port, endpoint = .v4 native port → joined = endpoint) ∧
      (∀ native port flow scope, endpoint = .v6 native port flow scope →
        joined = if native.isMapped then .v4 native.tail port else .v6 native port 0 0) ∧
      (joined = endpoint ↔ ∀ native port flow scope, endpoint = .v6 native port flow scope →
        ¬ native.isMapped = true ∧ flow = 0 ∧ scope = 0) ∧
      (ofEndpoint endpoint).1.Built ∧
      joined = (Address.ofEndpoint endpoint).1.toEndpoint (Address.ofEndpoint endpoint).2 := by
  refine ⟨fun address port => ?_, fun address made port => ?_, fun endpoint => ?_⟩
  · exact ⟨address.ofOctets_octets, rfl, address.ofIP_toIP, address.ofEndpoint_toEndpoint port,
      fun _ => Address.toIPv4?_eq_some_iff⟩
  · obtain ⟨plain, rfl⟩ := made.exists_tagged
    refine ⟨ofOctets_tagged plain, ofIPv6_tagged plain, ?_, ?_, fun native => ?_,
      plain, rfl, toIP_tagged plain, toEndpoint_tagged plain port⟩
    · rw [toIP_tagged, ofIP_eq, plain.ofIP_toIP]
    · rw [toEndpoint_tagged, ofEndpoint_eq, plain.ofEndpoint_toEndpoint]
    · rw [toIPv4?_tagged, ofIPv4_eq, tagged_injective.eq_iff, Address.toIPv4?_eq_some_iff]
  · dsimp only
    rw [toEndpoint_ofEndpoint, Address.toEndpoint_ofEndpoint]
    refine ⟨?_, ?_, Endpoint.settled_eq_iff, .ofEndpoint endpoint, rfl⟩
    · rintro native port rfl
      rfl
    · rintro native port flow scope rfl
      rfl

/-- The mapped endpoint of 192.0.2.7 in zone 3 comes back as an IPv4 endpoint, and its address is
found again in that. -/
theorem conversions_exact_mapped :
    ∃ (address : TaggedAddress) (port : UInt16), address.Built ∧
      ofEndpoint (.v6 (IPv4.mapped ⟨0xc0000207⟩) 53 0 3) = (address, port) ∧
      address.toEndpoint port = .v4 ⟨0xc0000207⟩ 53 ∧
      ofEndpoint (address.toEndpoint port) = (address, port) := by
  obtain ⟨-, found, split⟩ := conversions_exact
  obtain ⟨-, joined, -, made, -⟩ := split (.v6 (IPv4.mapped ⟨0xc0000207⟩) 53 0 3)
  refine ⟨_, _, made, rfl, ?_, (found _ made _).2.2.2.1⟩
  exact (joined _ _ _ _ rfl).trans (by decide)

end TaggedAddress

end SelfIsolation
