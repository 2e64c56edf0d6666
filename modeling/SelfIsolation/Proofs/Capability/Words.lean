import SelfIsolation.Capability.ProcessCaps
import SelfIsolation.Proofs.Capability.Inclusion

/-! # Capability sets as words

A set is held by two words, bits 0 to 31 by the first and bits 32 to 63 by the
second (`SelfIsolation.CapSet.heldBy_ofWords`). The sets of a process and the two
records in which the kernel exchanges them tell the same, each set in its own field
of both (`SelfIsolation.CapRecords.holds_ofSets`).
-/

namespace SelfIsolation

namespace CapSet

/-- Two words make a set whose first 32 bits are those of the low word. -/
theorem containsBit_ofWords (low high : BitVec 32) (bit : Nat) :
    (ofWords low high).containsBit bit =
      if bit < 32 then low.getLsbD bit else high.getLsbD (bit - 32) :=
  BitVec.getLsbD_append

/-- The low word has the first 32 bits of a set. -/
theorem getLsbD_low (set : CapSet) (bit : Nat) :
    set.words.1.getLsbD bit = (decide (bit < 32) && set.containsBit bit) :=
  BitVec.getLsbD_setWidth 32 set.bits bit

/-- The high word has the other bits of a set. -/
theorem getLsbD_high (set : CapSet) (bit : Nat) :
    set.words.2.getLsbD bit = (decide (bit < 32) && set.containsBit (32 + bit)) := by
  rw [words, BitVec.getLsbD_setWidth, BitVec.getLsbD_ushiftRight]
  rfl

/-- A set is found again in its words. -/
theorem ofWords_words (set : CapSet) : ofWords set.words.1 set.words.2 = set := by
  refine eq_of_containsBit fun bit => ?_
  rw [containsBit_ofWords, getLsbD_low, getLsbD_high]
  split
  case isTrue low => rw [decide_eq_true low, Bool.true_and]
  case isFalse high =>
      have same : 32 + (bit - 32) = bit := Nat.add_sub_cancel' (Nat.le_of_not_lt high)
      rw [same]
      cases member : set.containsBit bit with
      | false => exact Bool.and_false _
      | true =>
          have small : bit < 64 := lt_width_of_containsBit member
          rw [decide_eq_true (show bit - 32 < 32 by omega), Bool.true_and]

/-- Two words are found again in the set that they make. -/
theorem words_ofWords (low high : BitVec 32) : (ofWords low high).words = (low, high) := by
  refine Prod.ext (BitVec.eq_of_getLsbD_eq fun bit small => ?_)
    (BitVec.eq_of_getLsbD_eq fun bit small => ?_)
  · rw [getLsbD_low, containsBit_ofWords, if_pos small, decide_eq_true small, Bool.true_and]
  · have above : ¬ 32 + bit < 32 := by omega
    rw [getLsbD_high, containsBit_ofWords, if_neg above, decide_eq_true small, Bool.true_and,
      Nat.add_sub_cancel_left]

/-- Two words hold the bits of a set, the first those below 32 and the second the others. -/
def HeldBy (set : CapSet) (low high : BitVec 32) : Prop :=
  ∀ bit < 32, low.getLsbD bit = set.containsBit bit ∧
    high.getLsbD bit = set.containsBit (32 + bit)

/-- The set that two words make is held by them. -/
theorem heldBy_ofWords (low high : BitVec 32) : (ofWords low high).HeldBy low high := by
  intro bit small
  have above : ¬ 32 + bit < 32 := by omega
  rw [containsBit_ofWords, containsBit_ofWords, if_pos small, if_neg above,
    Nat.add_sub_cancel_left]
  exact ⟨rfl, rfl⟩

end CapSet

namespace CapRecords

/-- Records hold the sets of a process, each one in its own field. -/
structure Holds (records : CapRecords) (sets : ProcessCaps) : Prop where
  effective : sets.effective.HeldBy records.low.effective records.high.effective
  permitted : sets.permitted.HeldBy records.low.permitted records.high.permitted
  inheritable : sets.inheritable.HeldBy records.low.inheritable records.high.inheritable

/-- Capability sets are exchanged without loss. -/
theorem toSets_ofSets (sets : ProcessCaps) : (ofSets sets).toSets = sets := by
  unfold toSets ofSets
  rw [CapSet.ofWords_words, CapSet.ofWords_words, CapSet.ofWords_words]

theorem ofSets_toSets (records : CapRecords) : ofSets records.toSets = records := by
  unfold ofSets toSets
  simp only [CapSet.words_ofWords]

/-- Records hold the sets that are read off them. -/
theorem holds_toSets (records : CapRecords) : records.Holds records.toSets where
  effective := CapSet.heldBy_ofWords _ _
  permitted := CapSet.heldBy_ofWords _ _
  inheritable := CapSet.heldBy_ofWords _ _

/-- The records of sets hold these. -/
theorem holds_ofSets (sets : ProcessCaps) : (ofSets sets).Holds sets := by
  have holds := holds_toSets (ofSets sets)
  rwa [toSets_ofSets] at holds

end CapRecords

end SelfIsolation
