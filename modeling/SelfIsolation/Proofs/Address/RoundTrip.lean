import SelfIsolation.Control.Query
import SelfIsolation.Proofs.Address.Compressed

/-! # Reading written addresses

Writing an address and reading it again gives the address, whichever form its text
takes: a dotted quad, a dotted quad after a gap, or groups
(`SelfIsolation.Address.read?_write`). No written address is the wildcard, so the
same holds of optional addresses, and different ones have different texts
(`SelfIsolation.Address.roundTrip`).
-/

namespace SelfIsolation

namespace IPv6

/-- What stands before the last 32 bits, as numbers. -/
theorem toNat_div_eq {bits high : BitVec 128} (front : bits >>> 32 = high) :
    bits.toNat / 2 ^ 32 = high.toNat := by
  rw [← front, BitVec.toNat_ushiftRight, Nat.shiftRight_eq_div_pow]

/-- A mapped address is the mapped form of its last four octets. -/
theorem mapped_tail {address : IPv6} (mapped : address.isMapped = true) :
    address.tail.mapped = address := by
  have front : address.bits >>> 32 = 0xffff#128 := eq_of_beq mapped
  have same : 0xffff#96 ++ address.bits.setWidth 32 = address.bits := by
    have value : address.bits.toNat / 2 ^ 32 = 0xffff := toNat_div_eq front
    apply BitVec.eq_of_toNat_eq
    rw [BitVec.toNat_append, BitVec.toNat_setWidth, Nat.shiftLeft_eq, Nat.mul_comm,
      ← Nat.two_pow_add_eq_or_of_lt (Nat.mod_lt _ (by decide))]
    have parts := Nat.div_add_mod address.bits.toNat (2 ^ 32)
    rwa [value] at parts
  exact congrArg IPv6.mk same

/-- An address whose first twelve octets are zero is its last four octets. -/
theorem setWidth_tail {address : IPv6} (zero : address.bits >>> 32 = 0) :
    (⟨address.tail.bits.setWidth 128⟩ : IPv6) = address := by
  have value : address.bits.toNat / 2 ^ 32 = 0 := toNat_div_eq zero
  have same : (address.bits.setWidth 32).setWidth 128 = address.bits := by
    apply BitVec.eq_of_toNat_eq
    rw [BitVec.toNat_setWidth, BitVec.toNat_setWidth]
    omega
  exact congrArg IPv6.mk same

/-- The text of an IPv6 address has a colon. -/
theorem colon_mem_writeCompressed (address : IPv6) : ':' ∈ address.writeCompressed := by
  simp only [writeCompressed]
  split
  case isTrue => simp
  case isFalse =>
      by_cases member : ':' ∈ writeGroups address.groups
      · exact member
      · have count := address.length_groups
        have nonempty : address.groups ≠ [] := List.ne_nil_of_length_pos (by omega)
        have single := congrArg List.length
          ((List.splitOn_eq_singleton member).symm.trans (splitOn_writeGroups nonempty))
        rw [List.length_map, count] at single
        cases single

end IPv6

namespace Address

/-- An address is read back from its text. -/
theorem read?_write (address : Address) : read? address.write = some address := by
  rw [write, toIPv4?, IPv6.toIPv4?]
  by_cases mapped : address.toIPv6.isMapped = true
  · rw [if_pos mapped]
    dsimp only
    rw [read?, IPv4.read?_write]
    dsimp only
    rw [ofIPv4, IPv6.mapped_tail mapped]
    rfl
  · rw [if_neg mapped]
    dsimp only
    by_cases compatible : address.isCompatible = true
    · have zero : address.toIPv6.bits >>> 32 = 0 :=
        eq_of_beq (Bool.and_eq_true_iff.mp compatible).1
      rw [if_pos compatible, read?, IPv4.read?_eq_none (List.mem_append_left _ (by decide))]
      dsimp only
      rw [IPv6.read?_dotted, IPv6.setWidth_tail zero]
      rfl
    · have compressed : address.toIPv6.write = address.toIPv6.writeCompressed := if_neg mapped
      rw [if_neg compatible, compressed, read?,
        IPv4.read?_eq_none (IPv6.colon_mem_writeCompressed _)]
      dsimp only
      rw [IPv6.read?_writeCompressed]
      rfl

/-- No address is written as the wildcard. -/
theorem write_ne_wildcard (address : Address) : address.write ≠ wildcard := by
  intro same
  have read := address.read?_write
  rw [same] at read
  cases read

/-- An optional address is read back from its text. -/
theorem readOptional?_writeOptional (address : Option Address) :
    readOptional? (writeOptional address) = some address := by
  cases address with
  | none => rfl
  | some address =>
      rw [writeOptional, readOptional?, if_neg address.write_ne_wildcard, read?_write]
      rfl

theorem parse?_toString (address : Address) : parse? (toString address) = some address := by
  change read? (String.ofList address.write).toList = some address
  rw [String.toList_ofList, read?_write]

/-- **Text round trip.** Optional addresses are read back from their texts, and addresses from
theirs, which are never the wildcard. So no two of them share a text, and the text of an address
that was read is read and written without change. -/
theorem roundTrip :
    (∀ address : Option Address,
      Query.readAddress (String.ofList (writeOptional address)) = .ok address) ∧
    (∀ address : Address, parse? (toString address) = some address ∧
      toString address ≠ String.ofList wildcard) ∧
    Function.Injective (fun address => String.ofList (writeOptional address)) ∧
    ∀ text address, parse? text = some address →
      (parse? (toString address)).map toString = some (toString address) := by
  have optional : ∀ address : Option Address,
      Query.readAddress (String.ofList (writeOptional address)) = .ok address := by
    intro address
    rw [Query.readAddress, String.toList_ofList, readOptional?_writeOptional]
  refine ⟨optional, fun address => ⟨parse?_toString address, fun same => ?_⟩, ?_, ?_⟩
  · exact address.write_ne_wildcard (String.ofList_injective same)
  · intro left right same
    have read := (optional left).symm.trans
      ((congrArg Query.readAddress same).trans (optional right))
    exact Except.ok.inj read
  · intro text address _
    rw [parse?_toString, Option.map_some]

end Address

end SelfIsolation
