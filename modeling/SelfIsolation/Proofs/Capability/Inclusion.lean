import SelfIsolation.Capability.ProcessCaps

/-! # Inclusion of capability sets

A capability set is known by its bits, and inclusion compares bit by bit. The sets
of a process are covered by recorded ones when nothing is left that the record does
not hold (`SelfIsolation.ProcessCaps.Covers`); giving up more keeps the covered
sets narrower than the record (`SelfIsolation.ProcessCaps.Covers.narrows_restrict`).
-/

namespace SelfIsolation.CapSet

variable {left right third : CapSet}

/-- Inclusion is inclusion of bits. -/
theorem subset_iff : left ⊆ right ↔
    ∀ bit, left.containsBit bit = true → right.containsBit bit = true := by
  change left.bits &&& ~~~right.bits = 0 ↔ _
  constructor
  · intro disjoint bit member
    have leftBit : left.bits.getLsbD bit = true := member
    have small : bit < 64 := BitVec.lt_of_getLsbD leftBit
    have absent : (left.bits &&& ~~~right.bits).getLsbD bit = false := by
      rw [disjoint]
      exact BitVec.getLsbD_zero
    simp only [BitVec.getLsbD_and, BitVec.getLsbD_not, leftBit, small, decide_true,
      Bool.true_and, Bool.not_eq_false'] at absent
    exact absent
  · intro included
    apply BitVec.eq_of_getLsbD_eq
    intro bit small
    cases member : left.bits.getLsbD bit with
    | false => simp [member]
    | true => simp [small, show right.bits.getLsbD bit = true from included bit member]

theorem containsBit_empty (bit : Nat) : (∅ : CapSet).containsBit bit = false := BitVec.getLsbD_zero

theorem containsBit_inter (bit : Nat) :
    (left ∩ right).containsBit bit = (left.containsBit bit && right.containsBit bit) :=
  BitVec.getLsbD_and

theorem containsBit_union (bit : Nat) :
    (left ∪ right).containsBit bit = (left.containsBit bit || right.containsBit bit) :=
  BitVec.getLsbD_or

/-- The bits of a set are among the first 64. -/
theorem lt_width_of_containsBit {set : CapSet} {bit : Nat} (member : set.containsBit bit = true) :
    bit < width :=
  BitVec.lt_of_getLsbD member

/-- The first of all bits, and the others. -/
theorem range_width : List.range width = 0 :: (List.range 63).map Nat.succ :=
  List.range_succ_eq_map

/-- Inserting a bit adds it if it is among the first 64, and no other. -/
theorem containsBit_insertBit (set : CapSet) (added bit : Nat) :
    (set.insertBit added).containsBit bit =
      (set.containsBit bit || (decide (added < width) && decide (added = bit))) := by
  unfold insertBit containsBit
  rw [BitVec.getLsbD_or, BitVec.getLsbD_twoPow]
  rfl

/-- Where the lowest bits with a property were found, the next bit is found if it has it. -/
theorem containsBit_collected {found : CapSet} {count : Nat} {holds : Nat → Prop} {present : Prop}
    [Decidable present] (small : count < width) (answered : present ↔ holds count)
    (below : ∀ bit, found.containsBit bit = true ↔ bit < count ∧ holds bit) (bit : Nat) :
    (if present then found.insertBit count else found).containsBit bit = true ↔
      bit < count + 1 ∧ holds bit := by
  by_cases next : holds count
  · rw [if_pos (answered.mpr next), containsBit_insertBit, Bool.or_eq_true, below,
      Bool.and_eq_true, decide_eq_true_eq, decide_eq_true_eq]
    constructor
    · rintro (⟨earlier, held⟩ | ⟨-, rfl⟩)
      · exact ⟨Nat.lt_succ_of_lt earlier, held⟩
      · exact ⟨Nat.lt_succ_self _, next⟩
    · rintro ⟨upTo, held⟩
      rcases Nat.lt_succ_iff_lt_or_eq.mp upTo with earlier | same
      · exact .inl ⟨earlier, held⟩
      · exact .inr ⟨small, same.symm⟩
  · rw [if_neg (next ∘ answered.mp), below]
    refine and_congr_left fun held => ⟨Nat.lt_succ_of_lt, fun upTo => ?_⟩
    exact Nat.lt_of_le_of_ne (Nat.le_of_lt_succ upTo) fun same => next (same ▸ held)

/-- Erasing a bit takes it away, and no other. -/
theorem containsBit_eraseBit (set : CapSet) (erased bit : Nat) :
    (set.eraseBit erased).containsBit bit = (set.containsBit bit && decide (erased ≠ bit)) := by
  unfold eraseBit containsBit
  rw [BitVec.getLsbD_and, BitVec.getLsbD_not, BitVec.getLsbD_twoPow]
  cases member : set.bits.getLsbD bit with
  | false => rfl
  | true =>
      have small := BitVec.lt_of_getLsbD member
      by_cases same : erased = bit <;> simp [same, small]

theorem subset_refl (set : CapSet) : set ⊆ set := subset_iff.mpr fun _ member => member

theorem subset_trans (first : left ⊆ right) (second : right ⊆ third) : left ⊆ third :=
  subset_iff.mpr fun bit member => subset_iff.mp second bit (subset_iff.mp first bit member)

/-- Sets of the same bits are the same set. -/
theorem eq_of_containsBit (same : ∀ bit, left.containsBit bit = right.containsBit bit) :
    left = right := by
  cases left
  cases right
  exact congrArg mk (BitVec.eq_of_getLsbD_eq fun bit _ => same bit)

theorem subset_antisymm (first : left ⊆ right) (second : right ⊆ left) : left = right :=
  eq_of_containsBit fun bit =>
    Bool.eq_iff_iff.mpr ⟨subset_iff.mp first bit, subset_iff.mp second bit⟩

theorem inter_subset_left (left right : CapSet) : left ∩ right ⊆ left := by
  rw [subset_iff]
  intro bit member
  rw [containsBit_inter, Bool.and_eq_true] at member
  exact member.1

theorem inter_subset_right (left right : CapSet) : left ∩ right ⊆ right := by
  rw [subset_iff]
  intro bit member
  rw [containsBit_inter, Bool.and_eq_true] at member
  exact member.2

theorem subset_union_left (left right : CapSet) : left ⊆ left ∪ right := by
  rw [subset_iff]
  intro bit member
  rw [containsBit_union, member, Bool.true_or]

theorem subset_union_right (left right : CapSet) : right ⊆ left ∪ right := by
  rw [subset_iff]
  intro bit member
  rw [containsBit_union, member, Bool.or_true]

theorem union_subset (first : left ⊆ third) (second : right ⊆ third) : left ∪ right ⊆ third := by
  rw [subset_iff] at first second ⊢
  intro bit member
  rw [containsBit_union, Bool.or_eq_true] at member
  exact member.elim (first bit) (second bit)

theorem empty_subset (set : CapSet) : ∅ ⊆ set := by
  rw [subset_iff]
  intro bit member
  rw [containsBit_empty] at member
  cases member

theorem inter_subset_inter (included : left ⊆ right) (keep : CapSet) :
    left ∩ keep ⊆ right ∩ keep := by
  rw [subset_iff] at included ⊢
  intro bit member
  rw [containsBit_inter, Bool.and_eq_true] at member ⊢
  exact ⟨included bit member.1, member.2⟩

theorem subset_inter (first : third ⊆ left) (second : third ⊆ right) : third ⊆ left ∩ right := by
  rw [subset_iff] at first second ⊢
  intro bit member
  rw [containsBit_inter, first bit member, second bit member, Bool.true_and]

theorem eraseBit_subset (set : CapSet) (bit : Nat) : set.eraseBit bit ⊆ set :=
  inter_subset_left set ⟨~~~BitVec.twoPow 64 bit⟩

end SelfIsolation.CapSet

namespace SelfIsolation.ProcessCaps

/-- Recorded sets cover the sets of a process: nothing may be used or taken into use that the
record does not hold, and what is handed on is known exactly. -/
structure Covers (recorded actual : ProcessCaps) : Prop where
  effective : actual.effective ⊆ recorded.effective
  permitted : actual.permitted ⊆ recorded.permitted
  inheritable : actual.inheritable = recorded.inheritable

theorem Covers.refl (sets : ProcessCaps) : sets.Covers sets :=
  ⟨CapSet.subset_refl _, CapSet.subset_refl _, rfl⟩

variable {recorded actual : ProcessCaps}

/-- Restricting the sets of a process keeps them covered. -/
theorem Covers.restrict (covers : recorded.Covers actual) (keep : CapSet) :
    recorded.Covers (actual.restrict keep) where
  effective := CapSet.subset_trans (CapSet.inter_subset_left _ _) covers.effective
  permitted := CapSet.subset_trans (CapSet.inter_subset_left _ _) covers.permitted
  inheritable := covers.inheritable

/-- Covered sets may be recorded in place of the ones that cover them. -/
theorem Covers.narrows (covers : recorded.Covers actual) : recorded.Narrows actual :=
  ⟨CapSet.subset_trans covers.effective (CapSet.subset_union_left _ _), covers.permitted⟩

/-- Covered sets may be recorded after they were restricted. -/
theorem Covers.narrows_restrict (covers : recorded.Covers actual) (keep : CapSet) :
    recorded.Narrows (actual.restrict keep) :=
  (covers.restrict keep).narrows

/-- Covered sets may be recorded after nothing is left to hand on. -/
theorem Covers.narrows_clearInheritable (covers : recorded.Covers actual) :
    recorded.Narrows actual.clearInheritable :=
  covers.narrows

end SelfIsolation.ProcessCaps
