import SelfIsolation.Proofs.Address.Block
import SelfIsolation.Proofs.Address.Containment

/-! # Families under masks

An address is IPv4 exactly if it agrees with 0.0.0.0 on the bits of the mapping
(`SelfIsolation.Address.family_eq_v4_iff`). So masks and blocks never take an IPv6
address for an IPv4 one (`SelfIsolation.Block.family_separated`), and past the mapping
the 128 bits of a mapped address are masked, compared and ordered as the 32 bits of
the IPv4 address (`SelfIsolation.Block.mapped_native`).
-/

namespace SelfIsolation

namespace Address

variable {address left right : Address} {length : PrefixLength}

/-! ## The bits that tell the family -/

/-- An address is mapped if it agrees with 0.0.0.0 on the bits of the mapping. -/
theorem isMapped_iff_agree :
    address.toIPv6.isMapped ↔ Word.Agree PrefixLength.mappingWidth address.bits any4.bits := by
  have mapping : any4.bits.toNat / 2 ^ (128 - PrefixLength.mappingWidth) = 0xffff := by decide
  rw [Word.agree_iff_div (by decide), mapping, IPv6.isMapped, beq_iff_eq, ← BitVec.toNat_inj,
    BitVec.toNat_ushiftRight, Nat.shiftRight_eq_div_pow]
  rfl

/-- The mapping is what IPv4 addresses have in common. -/
theorem family_eq_v4_iff :
    address.family = .v4 ↔ Word.Agree PrefixLength.mappingWidth address.bits any4.bits := by
  rw [← isMapped_iff_agree, family]
  split
  case isTrue mapped => exact iff_of_true rfl mapped
  case isFalse unmapped => exact iff_of_false (by decide) unmapped

theorem family_eq_v6_iff : address.family = .v6 ↔ ¬ address.family = .v4 := by
  cases address.family <;> decide

/-- Addresses that agree on the bits of the mapping are of one family. -/
theorem family_eq_of_agree
    (agree : Word.Agree PrefixLength.mappingWidth left.bits right.bits) :
    left.family = right.family := by
  have same : left.toIPv6.isMapped = right.toIPv6.isMapped := by
    rw [Bool.eq_iff_iff, isMapped_iff_agree, isMapped_iff_agree]
    exact ⟨fun mapped => agree.symm.trans mapped, fun mapped => agree.trans mapped⟩
  rw [family, family, same]

/-! ## Masked addresses -/

/-- A mask that covers the mapping keeps the family. -/
theorem family_mask_of_covers (covers : PrefixLength.mappingWidth ≤ length.toNat) :
    (address.mask length).family = address.family :=
  family_eq_of_agree ((address.agree_mask length).shorten covers)

/-- No mask makes an IPv4 address of an IPv6 one: a mask that spares the last bit of the mapping
spares all of them, and any other mask clears this bit, which is set in the mapping. -/
theorem family_mask_of_v6 (native : address.family = .v6) (length : PrefixLength) :
    (address.mask length).family = .v6 := by
  by_cases covers : PrefixLength.mappingWidth ≤ length.toNat
  · rw [family_mask_of_covers covers, native]
  · rw [family_eq_v6_iff, family_eq_v4_iff]
    intro mapped
    have short : length.toNat ≤ 95 := by
      rw [PrefixLength.mappingWidth] at covers
      omega
    have same := mapped 95 (by decide)
    rw [bits_mask, Word.getMsbD_leading _ _ (by decide),
      decide_eq_false (Nat.not_lt_of_le short), Bool.false_and] at same
    revert same
    decide

/-! ## Mapped addresses -/

/-- The leading bits of a mapped address are the mapping, and those of the IPv4 address follow. -/
theorem getMsbD_ofIPv4 (quad : IPv4) (position : Nat) :
    (ofIPv4 quad).bits.getMsbD position =
      if 96 ≤ position then quad.bits.getMsbD (position - 96)
      else (0xffff#96).getMsbD position :=
  BitVec.getMsbD_append

/-- Past the mapping, the leading bits of a mapped address are those of the IPv4 address. -/
theorem mask_ofIPv4 (quad : IPv4) {n : Nat} (counted : length.toNat = n + 96) :
    (ofIPv4 quad).mask length = ofIPv4 ⟨Word.leading n quad.bits⟩ := by
  apply eq_iff_bits.mpr
  apply BitVec.eq_of_getMsbD_eq
  intro position inside
  rw [bits_mask, Word.getMsbD_leading _ _ inside, getMsbD_ofIPv4, getMsbD_ofIPv4, counted]
  by_cases past : 96 ≤ position
  · have within : position - 96 < 32 := by omega
    have bound : position < n + 96 ↔ position - 96 < n := by omega
    rw [if_pos past, if_pos past, Word.getMsbD_leading _ _ within, decide_eq_decide.mpr bound]
  · have before : position < n + 96 := by omega
    rw [if_neg past, if_neg past, decide_eq_true before, Bool.true_and]

/-- As a number, a mapped address is the mapping before the IPv4 address. -/
theorem toNat_ofIPv4 (quad : IPv4) :
    (ofIPv4 quad).bits.toNat = 0xffff * 2 ^ 32 + quad.bits.toNat := by
  rw [Nat.mul_comm, Nat.two_pow_add_eq_or_of_lt quad.bits.isLt, Nat.mul_comm, ← Nat.shiftLeft_eq]
  exact BitVec.toNat_append _ _

/-- Mapping loses nothing of an IPv4 address. -/
theorem ofIPv4_injective : Function.Injective ofIPv4 := by
  intro left right same
  have value := congrArg (fun address => address.bits.toNat) same
  rw [toNat_ofIPv4, toNat_ofIPv4] at value
  cases left
  cases right
  exact congrArg IPv4.mk (BitVec.eq_of_toNat_eq (Nat.add_left_cancel value))

/-- A mapped address is the mapped form of its last four octets. -/
theorem ofIPv4_tail (mapped : address.toIPv6.isMapped = true) :
    ofIPv4 address.toIPv6.tail = address := by
  rw [ofIPv4, IPv6.mapped_tail mapped]
  rfl

/-- An address has an IPv4 form if it is the mapped form of that. -/
theorem toIPv4?_eq_some_iff {native : IPv4} :
    address.toIPv4? = some native ↔ address = ofIPv4 native := by
  rw [toIPv4?, IPv6.toIPv4?]
  split
  case isTrue mapped =>
      rw [Option.some.injEq, ← ofIPv4_injective.eq_iff, ofIPv4_tail mapped]
  case isFalse unmapped =>
      refine iff_of_false (Option.some_ne_none native).symm ?_
      rintro rfl
      exact unmapped (isMapped_iff_agree.mpr (family_eq_v4_iff.mp (of_decide_eq_true
        (isIPv4_ofIPv4 native))))

/-- Mapped addresses are ordered as the IPv4 addresses, read as numbers. -/
theorem compare_ofIPv4 (left right : IPv4) :
    compare (ofIPv4 left) (ofIPv4 right) = compare left.bits.toNat right.bits.toNat := by
  rw [compare_eq, toNat_ofIPv4, toNat_ofIPv4,
    compare_mul_add _ _ left.bits.isLt right.bits.isLt, Nat.compare_eq_eq.mpr rfl,
    Ordering.eq_then]

end Address

namespace Block

variable {block : Block} {address : Address}

/-! ## Blocks of one family -/

/-- The network of a block is of the family of its address. -/
theorem family_network (block : Block) : block.network.family = block.address.family := by
  cases named : block.address.family with
  | v4 =>
      have covers := block.covers_mapping (decide_eq_true named)
      rw [network, Address.family_mask_of_covers covers, named]
  | v6 => exact Address.family_mask_of_v6 named block.length

/-- An IPv4 block holds no IPv6 address. -/
theorem family_of_contains (quad : block.family = .v4) (inside : block.contains address) :
    address.family = .v4 := by
  have covers := block.covers_mapping (decide_eq_true quad)
  rw [Address.family_eq_of_agree ((contains_iff_agree.mp inside).shorten covers)]
  exact quad

/-- An IPv6 block holds an IPv4 address if it is a piece of the address space around the mapping,
and then it holds all of them. -/
theorem contains_mapped_iff (native : block.family = .v6) (mapped : address.family = .v4) :
    block.contains address ↔ block.length.toNat < PrefixLength.mappingWidth ∧
      Word.Agree block.length.toNat block.address.bits Address.any4.bits := by
  have mapping := Address.family_eq_v4_iff.mp mapped
  rw [contains_iff_agree]
  constructor
  · intro agree
    have short : block.length.toNat < PrefixLength.mappingWidth := by
      by_contra covers
      have same := Address.family_eq_of_agree (agree.shorten (Nat.le_of_not_lt covers))
      exact Address.family_eq_v6_iff.mp native (same.symm.trans mapped)
    exact ⟨short, agree.symm.trans (mapping.shorten (Nat.le_of_lt short))⟩
  · rintro ⟨short, around⟩
    exact (mapping.shorten (Nat.le_of_lt short)).trans around.symm

/-- **Families stay apart.** The network of a block has the family of its address. An IPv4 block
holds no IPv6 address. An IPv6 block holds all IPv4 addresses or none, and holds them exactly if its
length ends before the mapping does and its fixed bits are those of the mapping. No mask makes an
IPv4 address of an IPv6 one. -/
theorem family_separated :
    (∀ block : Block, block.network.family = block.address.family) ∧
    (∀ block : Block, block.family = .v4 → ∀ address : Address, address.family = .v6 →
      ¬ block.contains address) ∧
    (∀ block : Block, block.family = .v6 →
      ((∀ address : Address, address.family = .v4 → block.contains address) ∨
        ∀ address : Address, address.family = .v4 → ¬ block.contains address) ∧
      ∀ address : Address, address.family = .v4 →
        (block.contains address ↔ block.length.toNat < 96 ∧
          ∀ position < block.length.toNat, block.address.bits.getMsbD position =
            Address.any4.bits.getMsbD position)) ∧
    ∀ (address : Address) (length : PrefixLength), address.family = .v6 →
      (address.mask length).family = .v6 := by
  refine ⟨family_network, ?_, ?_, fun address length native =>
    Address.family_mask_of_v6 native length⟩
  · intro block quad address native inside
    exact Address.family_eq_v6_iff.mp native (family_of_contains quad inside)
  · intro block native
    refine ⟨?_, fun address mapped => contains_mapped_iff native mapped⟩
    -- The condition does not mention the address, so it decides for all of them at once.
    by_cases around : block.length.toNat < PrefixLength.mappingWidth ∧
        Word.Agree block.length.toNat block.address.bits Address.any4.bits
    · exact .inl fun address mapped => (contains_mapped_iff native mapped).mpr around
    · exact .inr fun address mapped inside =>
        around ((contains_mapped_iff native mapped).mp inside)

/-- The block `::/0` holds 10.0.0.1, the block 10.0.0.0/8 does not hold `::a00:1`, and the mask of
its length leaves that an IPv6 address. -/
theorem family_separated_ten :
    (mk .any6 ⟨0, by decide⟩ (by decide)).contains (.ofIPv4 ⟨0x0a000001⟩) ∧
      ¬ (mk (.ofIPv4 ⟨0x0a000000⟩) ⟨104, by decide⟩ (by decide)).contains ⟨0x0a000001⟩ ∧
      ((⟨0x0a000001⟩ : Address).mask ⟨104, by decide⟩).family = .v6 :=
  ⟨((family_separated.2.2.1 _ (by decide)).2 _ (by decide)).mpr ⟨by decide, by decide⟩,
    family_separated.2.1 _ (by decide) _ (by decide), family_separated.2.2.2 _ _ (by decide)⟩

/-! ## Blocks of IPv4 addresses -/

/-- An IPv4 block holds the mapped forms of the addresses that agree with it on its IPv4 length. -/
theorem contains_ofIPv4_iff {left right : IPv4} {n : Nat} (whole : block.address = .ofIPv4 left)
    (counted : block.length.toNat = n + 96) (bounded : n ≤ 32) :
    block.contains (.ofIPv4 right) ↔ Word.Agree n left.bits right.bits := by
  rw [contains, decide_eq_true_iff, network, whole, Address.mask_ofIPv4 right counted,
    Address.mask_ofIPv4 left counted, Address.ofIPv4_injective.eq_iff, IPv4.mk.injEq,
    Word.leading_eq_leading_iff bounded]
  exact ⟨Word.Agree.symm, Word.Agree.symm⟩

/-- **IPv4 arithmetic in the mapped form.** Masking a mapped address with an IPv4 length clears what
is past that many bits of the IPv4 address. A block of the length holds the mapped addresses with
the same leading bits, as many as the length says, in 32. The family counts the length as it was
given, and mapped addresses are ordered as the IPv4 addresses, read as numbers. -/
theorem mapped_native (left right : IPv4) (n : Nat) (bounded : n ≤ 32) :
    ∃ length block, PrefixLength.ofIPv4? n = some length ∧
      ofParts? (.ofIPv4 left) length = some block ∧
      (Address.ofIPv4 left).mask length = .ofIPv4 ⟨left.bits >>> (32 - n) <<< (32 - n)⟩ ∧
      (block.contains (.ofIPv4 right) ↔
        ∀ position < n, left.bits.getMsbD position = right.bits.getMsbD position) ∧
      length.forFamily .v4 = n ∧
      compare (Address.ofIPv4 left) (.ofIPv4 right) =
        compare left.bits.toNat right.bits.toNat := by
  have fits : n + PrefixLength.mappingWidth ≤ 128 := Nat.add_le_add_right bounded _
  let length : PrefixLength := ⟨n + PrefixLength.mappingWidth, fits⟩
  let block : Block := ⟨.ofIPv4 left, length, fun _ => Nat.le_add_left _ _⟩
  refine ⟨length, block, PrefixLength.ofIPv4?_eq_some_iff.mpr ⟨bounded, rfl⟩,
    dif_pos block.covers_mapping, Address.mask_ofIPv4 left rfl,
    contains_ofIPv4_iff rfl rfl bounded, ?_, Address.compare_ofIPv4 left right⟩
  exact Nat.add_sub_cancel n PrefixLength.mappingWidth

/-- The block of 172.20.1.2 and 12 is 172.16.0.0/12, which holds 172.31.255.254. -/
theorem mapped_native_private :
    12 ≤ 32 ∧ ∃ length block, PrefixLength.ofIPv4? 12 = some length ∧
      ofParts? (.ofIPv4 ⟨0xac140102⟩) length = some block ∧
      (Address.ofIPv4 ⟨0xac140102⟩).mask length = .ofIPv4 ⟨0xac100000⟩ ∧
      block.contains (.ofIPv4 ⟨0xac1ffffe⟩) := by
  obtain ⟨length, block, counted, made, masked, held, -⟩ :=
    mapped_native ⟨0xac140102⟩ ⟨0xac1ffffe⟩ 12 (by decide)
  exact ⟨by decide, length, block, counted, made, masked, held.mpr (by decide)⟩

end Block

end SelfIsolation
