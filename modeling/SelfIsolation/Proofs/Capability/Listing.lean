import Mathlib.Logic.Basic
import SelfIsolation.Proofs.Capability.Inclusion

/-! # The members of a capability set

The table of capabilities holds every one of them at the place of its bit, so the
members of a set are listed in the order of the bits and each once
(`SelfIsolation.CapSet.mem_toList`, `SelfIsolation.CapSet.toList_ascending`). A set
that is made of its listed members is the set without the bits that no capability
has (`SelfIsolation.CapSet.ofList_toList`).
-/

namespace SelfIsolation

namespace Capability

theorem mem_all (capability : Capability) : capability ∈ all := by
  cases capability <;> decide

/-- The table is in the order of the bits, which have no gaps. -/
theorem bits_all : all.map bit = List.range 41 := by
  decide

/-- The bits of capabilities are the first 41. -/
theorem bit_lt (capability : Capability) : capability.bit < 41 :=
  List.mem_range.mp (bits_all ▸ List.mem_map_of_mem capability.mem_all)

/-- A bit names the capability that has it. -/
theorem bit_of_ofBit? {bit : Nat} {capability : Capability}
    (named : ofBit? bit = some capability) : capability.bit = bit := by
  have found : (all.map Capability.bit)[bit]? = some capability.bit := by
    unfold ofBit? at named
    rw [List.getElem?_map, named]
    rfl
  rw [bits_all] at found
  obtain ⟨small, same⟩ := List.getElem?_eq_some_iff.mp found
  exact same.symm.trans (List.getElem_range small)

end Capability

namespace CapSet

variable {set : CapSet} {capabilities : List Capability} {bit : Nat}

/-- The complement has the bits among the first 64 that the set lacks. -/
theorem containsBit_compl :
    (~~~set).containsBit bit = (decide (bit < width) && !set.containsBit bit) :=
  BitVec.getLsbD_not

theorem mem_iff {capability : Capability} :
    capability ∈ set ↔ set.containsBit capability.bit = true := Iff.rfl

/-! ## Sets of listed bits and capabilities -/

/-- Inserting bits one after another adds those among the first 64. -/
theorem containsBit_foldl_insertBit {bits : List Nat} :
    (bits.foldl insertBit set).containsBit bit = true ↔
      set.containsBit bit = true ∨ bit < width ∧ bit ∈ bits := by
  induction bits generalizing set with
  | nil => simp only [List.foldl_nil, List.not_mem_nil, and_false, or_false]
  | cons first rest ih =>
      have added : first < width ∧ first = bit ↔ bit < width ∧ bit = first :=
        ⟨fun ⟨small, same⟩ => ⟨same ▸ small, same.symm⟩,
          fun ⟨small, same⟩ => ⟨same ▸ small, same.symm⟩⟩
      rw [List.foldl_cons, ih, containsBit_insertBit, Bool.or_eq_true, Bool.and_eq_true,
        decide_eq_true_eq, decide_eq_true_eq, added, or_assoc, List.mem_cons, and_or_left]

/-- A set made of bits has those among the first 64. -/
theorem containsBit_ofBits {bits : List Nat} :
    (ofBits bits).containsBit bit = true ↔ bit < width ∧ bit ∈ bits := by
  have none : empty.containsBit bit = false := containsBit_empty bit
  rw [ofBits, containsBit_foldl_insertBit, none, or_iff_right Bool.false_ne_true]

/-- The set of the lowest bits has those among the first 64. -/
theorem containsBit_lowest {count : Nat} :
    (lowest count).containsBit bit = true ↔ bit < width ∧ bit < count := by
  rw [lowest, containsBit_ofBits, List.mem_range]

/-- A set made of capabilities has their bits and no others. -/
theorem containsBit_ofList : (ofList capabilities).containsBit bit = true ↔
    ∃ capability ∈ capabilities, capability.bit = bit := by
  have bits : ofList capabilities = ofBits (capabilities.map Capability.bit) := by
    rw [ofBits, List.foldl_map]
    rfl
  rw [bits, containsBit_ofBits, List.mem_map, and_iff_right_iff_imp]
  rintro ⟨capability, -, rfl⟩
  exact Nat.lt_trans capability.bit_lt (by decide)

/-- The set of all capabilities has their bits and no others. -/
theorem containsBit_all : all.containsBit bit = true ↔
    ∃ capability : Capability, capability.bit = bit := by
  rw [all, containsBit_ofList]
  simp only [Capability.mem_all, true_and]

/-! ## The list of the members -/

theorem mem_toList {capability : Capability} : capability ∈ set.toList ↔ capability ∈ set := by
  rw [toList, List.mem_filter, and_iff_right capability.mem_all]
  exact Iff.rfl

/-- The list of a set ascends. -/
theorem toList_ascending (set : CapSet) :
    set.toList.Pairwise fun left right => left.bit < right.bit := by
  have ordered : (Capability.all.map Capability.bit).Pairwise (· < ·) := by
    rw [Capability.bits_all]
    exact List.pairwise_lt_range
  exact (List.pairwise_map.mp ordered).filter _

/-- What is made of the listed members is the set as far as there are capabilities. -/
theorem ofList_toList (set : CapSet) : ofList set.toList = set ∩ all := by
  refine eq_of_containsBit fun bit => Bool.eq_iff_iff.mpr ?_
  rw [containsBit_ofList, containsBit_inter, Bool.and_eq_true, containsBit_all]
  constructor
  · rintro ⟨capability, listed, rfl⟩
    exact ⟨mem_iff.mp (mem_toList.mp listed), capability, rfl⟩
  · rintro ⟨member, capability, rfl⟩
    exact ⟨capability, mem_toList.mpr member, rfl⟩

/-! ## Bits without a capability -/

/-- The unnamed part of a set has its bits that no capability has. -/
theorem containsBit_unnamed : set.unnamed.containsBit bit = true ↔
    set.containsBit bit = true ∧ ∀ capability : Capability, capability.bit ≠ bit := by
  rw [unnamed, containsBit_inter, containsBit_compl, Bool.and_eq_true, Bool.and_eq_true,
    decide_eq_true_eq, Bool.not_eq_true', ← Bool.not_eq_true, containsBit_all, not_exists]
  exact and_congr_right fun member => and_iff_right (lt_width_of_containsBit member)

end CapSet

end SelfIsolation
