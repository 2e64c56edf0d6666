import SelfIsolation.Address.Block
import SelfIsolation.Proofs.Address.Order

/-! # Containment in blocks

A block holds the addresses that agree with it on its fixed bits
(`SelfIsolation.Block.contains_iff_agree`). In the order of addresses these are the
ones from its network to its last address
(`SelfIsolation.Block.contains_iff_between`), so a block is an interval
(`SelfIsolation.Block.contains_interval`).
-/

namespace SelfIsolation.Block

variable {block : Block} {address : Address}

/-- The last address of a block: its network with all bits past the prefix set. -/
def last (block : Block) : Address :=
  ⟨block.network.bits ||| BitVec.allOnes 128 >>> block.length.toNat⟩

/-- A block holds the addresses that agree with its own on the leading bits. -/
theorem contains_iff_agree :
    block.contains address ↔
      Word.Agree block.length.toNat address.bits block.address.bits := by
  rw [contains, decide_eq_true_iff]
  exact Address.mask_eq_mask_iff

theorem contains_address (block : Block) : block.contains block.address :=
  contains_iff_agree.mpr (Word.Agree.refl _ _)

theorem contains_network (block : Block) : block.contains block.network :=
  contains_iff_agree.mpr (block.address.agree_mask block.length)

/-! ## The ends of a block -/

/-- Past the length, the network has no bit. -/
theorem getMsbD_network (block : Block) {position : Nat} (past : block.length.toNat ≤ position) :
    block.network.bits.getMsbD position = false := by
  by_cases inside : position < 128
  · rw [network, Address.bits_mask, Word.getMsbD_leading _ _ inside,
      decide_eq_false (Nat.not_lt_of_le past), Bool.false_and]
  · exact BitVec.getMsbD_of_ge _ _ (Nat.le_of_not_lt inside)

/-- Past the length, the last address has every bit. -/
theorem getMsbD_last (block : Block) {position : Nat} (past : block.length.toNat ≤ position)
    (inside : position < 128) : block.last.bits.getMsbD position = true := by
  have within : position - block.length.toNat < 128 := by omega
  simp only [last, BitVec.getMsbD_or, BitVec.getMsbD_ushiftRight, BitVec.getMsbD_allOnes, inside,
    within, Nat.not_lt_of_le past, decide_true, decide_false, Bool.not_false, Bool.true_and,
    Bool.or_true]

/-- As a number, the network is the address rounded down to a multiple of the block's size. -/
theorem toNat_network (block : Block) :
    block.network.bits.toNat = block.address.bits.toNat / 2 ^ (128 - block.length.toNat) *
      2 ^ (128 - block.length.toNat) := by
  rw [network, Address.bits_mask, Word.toNat_leading]

/-- As a number, the last address is the network and the rest of the block's size. -/
theorem toNat_last (block : Block) :
    block.last.bits.toNat =
      block.network.bits.toNat + (2 ^ (128 - block.length.toNat) - 1) := by
  have small : 2 ^ (128 - block.length.toNat) - 1 < 2 ^ (128 - block.length.toNat) :=
    Nat.sub_lt (Nat.two_pow_pos _) Nat.one_pos
  rw [last, BitVec.toNat_or, PrefixLength.toNat_rest, toNat_network, Nat.mul_comm,
    Nat.two_pow_add_eq_or_of_lt small]

/-! ## Blocks as intervals -/

/-- A block holds the addresses from its network to its last address. -/
theorem contains_iff_between :
    block.contains address ↔
      (compare block.network address).isLE ∧ (compare address block.last).isLE := by
  have positive : 0 < 2 ^ (128 - block.length.toNat) := Nat.two_pow_pos _
  rw [contains_iff_agree, Word.agree_iff_div block.length.le_width, Address.isLE_compare_iff,
    Address.isLE_compare_iff, toNat_last, toNat_network, Nat.div_eq_iff positive]
  omega

theorem contains_last (block : Block) : block.contains block.last := by
  rw [contains_iff_between, Address.isLE_compare_iff, Address.isLE_compare_iff, toNat_last]
  exact ⟨Nat.le_add_right _ _, Nat.le_refl _⟩

/-- What lies between addresses of a block belongs to it. -/
theorem contains_of_between {low middle high : Address} (lowInside : block.contains low)
    (highInside : block.contains high) (above : (compare low middle).isLE)
    (below : (compare middle high).isLE) : block.contains middle := by
  rw [contains_iff_between] at lowInside highInside ⊢
  rw [Address.isLE_compare_iff] at above below
  simp only [Address.isLE_compare_iff] at lowInside highInside ⊢
  exact ⟨Nat.le_trans lowInside.1 above, Nat.le_trans below highInside.2⟩

/-- **Blocks are intervals.** A block holds the addresses whose masked form has the family and the
octets of its network. These are the ones that agree with it on the leading bits that its length
counts, and the ones from its network to its last address. So a block holds itself, its network and
whatever lies between two addresses that it holds. The mask of each length from 0 to 128 has that
many leading ones, put in place by a shift of less than the width if there are any. -/
theorem contains_interval :
    (∀ (block : Block) (address : Address),
      (block.contains address ↔
        (address.mask block.length).family = block.network.family ∧
          (address.mask block.length).octets = block.network.octets) ∧
      (block.contains address ↔
        ∀ position < block.length.toNat,
          address.bits.getMsbD position = block.address.bits.getMsbD position) ∧
      (block.contains address ↔
        (compare block.network address).isLE ∧ (compare address block.last).isLE)) ∧
    (∀ block : Block, block.contains block.address ∧ block.contains block.network) ∧
    (∀ (block : Block) (low middle high : Address), block.contains low → block.contains high →
      (compare low middle).isLE → (compare middle high).isLE → block.contains middle) ∧
    ∀ length : PrefixLength,
      (∀ position, length.netmask.getMsbD position = decide (position < length.toNat)) ∧
      ((length.toNat = 0 ∧ length.netmask = 0) ∨
        ∃ rest : Fin 128, rest.val + length.toNat = 128 ∧
          length.netmask = BitVec.allOnes 128 <<< rest.val) := by
  refine ⟨fun block address => ⟨?_, contains_iff_agree, contains_iff_between⟩, fun block =>
    ⟨block.contains_address, block.contains_network⟩, ?_, fun length =>
    ⟨length.getMsbD_netmask, length.netmask_eq_shift⟩⟩
  · rw [contains, decide_eq_true_iff]
    exact Address.eq_iff_family_octets
  · intro block low middle high lowInside highInside above below
    exact contains_of_between lowInside highInside above below

/-- The block 10.0.0.0/8 holds 10.32.0.7, which lies between 10.0.0.1 and 10.255.0.1. -/
theorem contains_interval_ten :
    ∃ block : Block, block.contains (.ofIPv4 ⟨0x0a000001⟩) ∧
      block.contains (.ofIPv4 ⟨0x0aff0001⟩) ∧
      (compare (Address.ofIPv4 ⟨0x0a000001⟩) (.ofIPv4 ⟨0x0a200007⟩)).isLE ∧
      (compare (Address.ofIPv4 ⟨0x0a200007⟩) (.ofIPv4 ⟨0x0aff0001⟩)).isLE ∧
      block.contains (.ofIPv4 ⟨0x0a200007⟩) := by
  let block : Block := ⟨.ofIPv4 ⟨0x0a000000⟩, ⟨104, by decide⟩, by decide⟩
  have low : block.contains (.ofIPv4 ⟨0x0a000001⟩) := by decide
  have high : block.contains (.ofIPv4 ⟨0x0aff0001⟩) := by decide
  have above : (compare (Address.ofIPv4 ⟨0x0a000001⟩) (.ofIPv4 ⟨0x0a200007⟩)).isLE := by decide
  have below : (compare (Address.ofIPv4 ⟨0x0a200007⟩) (.ofIPv4 ⟨0x0aff0001⟩)).isLE := by decide
  exact ⟨block, low, high, above, below, contains_interval.2.2.1 _ _ _ _ low high above below⟩

end SelfIsolation.Block
