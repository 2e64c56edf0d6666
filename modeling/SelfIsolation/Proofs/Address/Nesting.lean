import SelfIsolation.Proofs.Address.Containment

/-! # Nested blocks

Masking twice is masking with the shorter length
(`SelfIsolation.Address.mask_mask`). An address of the longer of two blocks decides
whether the shorter one holds its network
(`SelfIsolation.Block.contains_iff_contains_network`), so two blocks are nested or
have nothing in common, and blocks with the same addresses have the same length and
the same network (`SelfIsolation.Block.nested_or_apart`).
-/

namespace SelfIsolation

namespace PrefixLength

/-- The shorter of two lengths. -/
def shorter (left right : PrefixLength) : PrefixLength :=
  ⟨min left.toNat right.toNat, Nat.le_trans (Nat.min_le_left _ _) left.le_width⟩

theorem eq_of_toNat_eq {left right : PrefixLength} (same : left.toNat = right.toNat) :
    left = right := by
  cases left
  cases right
  cases same
  rfl

theorem shorter_self (length : PrefixLength) : length.shorter length = length :=
  eq_of_toNat_eq (Nat.min_self _)

theorem shorter_comm (left right : PrefixLength) : left.shorter right = right.shorter left :=
  eq_of_toNat_eq (Nat.min_comm _ _)

end PrefixLength

namespace Address

/-- An address that is masked twice keeps what both masks keep. -/
theorem mask_mask (address : Address) (first second : PrefixLength) :
    (address.mask first).mask second = address.mask (first.shorter second) := by
  rw [eq_iff_bits, bits_mask, bits_mask, bits_mask]
  exact Word.leading_leading _ _ _

theorem mask_idem (address : Address) (length : PrefixLength) :
    (address.mask length).mask length = address.mask length := by
  rw [mask_mask, PrefixLength.shorter_self]

theorem mask_comm (address : Address) (first second : PrefixLength) :
    (address.mask first).mask second = (address.mask second).mask first := by
  rw [mask_mask, mask_mask, PrefixLength.shorter_comm]

end Address

namespace Block

variable {outer inner left right : Block} {address : Address}

/-- Whether a block holds the network of a longer one can be seen on any address of that one. -/
theorem contains_iff_contains_network (shorter : outer.length.toNat ≤ inner.length.toNat)
    (inside : inner.contains address) :
    outer.contains address ↔ outer.contains inner.network := by
  have network := contains_iff_agree.mp inner.contains_network
  have agree : Word.Agree outer.length.toNat address.bits inner.network.bits :=
    ((contains_iff_agree.mp inside).trans network.symm).shorten shorter
  rw [contains_iff_agree, contains_iff_agree]
  exact ⟨fun held => agree.symm.trans held, fun held => agree.trans held⟩

/-- The first bit that a block leaves open tells its network from its last address, so a block that
fixes this bit does not hold both. -/
theorem length_le_of_contains (network : outer.contains inner.network)
    (last : outer.contains inner.last) : outer.length.toNat ≤ inner.length.toNat := by
  by_contra longer
  have fixed : inner.length.toNat < outer.length.toNat := Nat.lt_of_not_le longer
  have inside : inner.length.toNat < 128 := Nat.lt_of_lt_of_le fixed outer.length.le_width
  have same := ((contains_iff_agree.mp network).trans (contains_iff_agree.mp last).symm) _ fixed
  rw [inner.getMsbD_network (Nat.le_refl _), inner.getMsbD_last (Nat.le_refl _) inside] at same
  cases same

/-- Blocks of one length with a common address have the same network. -/
theorem network_eq (level : left.length = right.length) (leftInside : left.contains address)
    (rightInside : right.contains address) : left.network = right.network := by
  rw [contains, decide_eq_true_iff] at leftInside rightInside
  rw [← leftInside, ← rightInside, level]

/-- The addresses of a block determine its length and its network. -/
theorem contains_ext_iff :
    (∀ address, left.contains address ↔ right.contains address) ↔
      left.length = right.length ∧ left.network = right.network := by
  constructor
  · intro same
    have longer : right.length.toNat ≤ left.length.toNat :=
      length_le_of_contains ((same _).mp left.contains_network) ((same _).mp left.contains_last)
    have shorter : left.length.toNat ≤ right.length.toNat :=
      length_le_of_contains ((same _).mpr right.contains_network)
        ((same _).mpr right.contains_last)
    have level := PrefixLength.eq_of_toNat_eq (Nat.le_antisymm shorter longer)
    exact ⟨level, network_eq level left.contains_network ((same _).mp left.contains_network)⟩
  · rintro ⟨level, network⟩ address
    rw [contains, contains, level, network]

/-- **Blocks form a tree.** Masking twice is masking with the shorter length, so masking again
changes nothing and the order of masks does not matter. Of two blocks, the one with the shorter
length holds all addresses of the other one if it holds its network, and none of them otherwise; and
two blocks hold the same addresses exactly if their lengths and their networks are equal. -/
theorem nested_or_apart :
    (∀ (address : Address) (first second : PrefixLength),
      (address.mask first).mask second = address.mask (first.shorter second)) ∧
    (∀ (address : Address) (length : PrefixLength),
      (address.mask length).mask length = address.mask length) ∧
    (∀ (address : Address) (first second : PrefixLength),
      (address.mask first).mask second = (address.mask second).mask first) ∧
    (∀ outer inner : Block, outer.length.toNat ≤ inner.length.toNat →
      (outer.contains inner.network →
        ∀ address, inner.contains address → outer.contains address) ∧
      (¬ outer.contains inner.network →
        ∀ address, ¬ (outer.contains address ∧ inner.contains address))) ∧
    ∀ left right : Block, (∀ address, left.contains address ↔ right.contains address) ↔
      left.length = right.length ∧ left.network = right.network := by
  refine ⟨Address.mask_mask, Address.mask_idem, Address.mask_comm, ?_,
    fun _ _ => contains_ext_iff⟩
  intro outer inner shorter
  constructor
  · intro held address inside
    exact (contains_iff_contains_network shorter inside).mpr held
  · rintro apart address ⟨held, inside⟩
    exact apart ((contains_iff_contains_network shorter inside).mp held)

/-- The block `::/0` holds 10.1.2.3 because it holds the network of 10.0.0.0/8, with which the block
`2001:db8::/32` has no address in common. -/
theorem nested_or_apart_ten :
    (mk .any6 ⟨0, by decide⟩ (by decide)).contains (.ofIPv4 ⟨0x0a010203⟩) ∧
      ∀ address, ¬ ((mk ⟨0x20010db8 <<< 96⟩ ⟨32, by decide⟩ (by decide)).contains address ∧
        (mk (.ofIPv4 ⟨0x0a000000⟩) ⟨104, by decide⟩ (by decide)).contains address) :=
  ⟨(nested_or_apart.2.2.2.1 _ (mk (.ofIPv4 ⟨0x0a000000⟩) ⟨104, by decide⟩ (by decide))
      (by decide)).1 (by decide) _ (by decide),
    (nested_or_apart.2.2.2.1 _ _ (by decide)).2 (by decide)⟩

end Block

end SelfIsolation
