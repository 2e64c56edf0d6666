import SelfIsolation.Simulation.Process

/-! # What a sweep closes

The ranges of a sweep lie one above the other, none of them is empty, and together
they hold every number from 3 on that fits but the one that is kept
(`SelfIsolation.Descriptor.inRanges_iff`). So a descriptor is swept exactly if its
number lies in one of them (`SelfIsolation.Descriptor.isSwept_iff`), which is how a
simulated process and a walk over a listing choose what to close.
-/

namespace SelfIsolation.Descriptor

/-- A number lies in a range. -/
def Range.Holds (range : Range) (number : Int) : Prop :=
  range.first.toNat ≤ number ∧ number ≤ range.last.toNat

instance (range : Range) (number : Int) : Decidable (range.Holds number) :=
  inferInstanceAs (Decidable (_ ∧ _))

/-- A number lies in one of the ranges. -/
def InRanges (ranges : List Range) (number : Int) : Prop := ∃ range ∈ ranges, range.Holds number

instance (ranges : List Range) (number : Int) : Decidable (InRanges ranges number) :=
  inferInstanceAs (Decidable (∃ range ∈ ranges, range.Holds number))

theorem inRanges_cons {range : Range} {ranges : List Range} {number : Int} :
    InRanges (range :: ranges) number ↔ range.Holds number ∨ InRanges ranges number := by
  simp only [InRanges, List.mem_cons, or_and_right, exists_or, exists_eq_left]

theorem inRanges_nil {number : Int} : ¬ InRanges [] number := fun ⟨_, member, _⟩ => nomatch member

theorem holds_iff {first last : UInt32} {number : Int} :
    Range.Holds ⟨first, last⟩ number ↔ first.toNat ≤ number ∧ number ≤ last.toNat := Iff.rfl

/-- A natural descriptor keeps its number as an unsigned one. -/
theorem toNat_toUInt32 {descriptor : Int32} (natural : 0 ≤ descriptor.toInt) :
    (descriptor.toUInt32.toNat : Int) = descriptor.toInt := by
  have number : descriptor.toInt = descriptor.toBitVec.toInt := rfl
  have unsigned : descriptor.toUInt32.toNat = descriptor.toBitVec.toNat := rfl
  have small := descriptor.toBitVec.isLt
  rw [number, BitVec.toInt_eq_toNat_cond] at natural ⊢
  rw [unsigned]
  split at natural
  case isTrue half => rw [if_pos half]
  case isFalse half => omega

/-- The ranges around a descriptor above the standard streams. -/
theorem sweepRanges_of_above {kept : Int32} (above : standardError < kept) :
    ∃ below next : UInt32,
      (below.toNat : Int) = kept.toInt - 1 ∧ (next.toNat : Int) = kept.toInt + 1 ∧
      sweepRanges (some kept) =
        if 3 < kept.toInt then [⟨3, below⟩, ⟨next, largest⟩] else [⟨next, largest⟩] := by
  have one : (1 : UInt32).toNat = 1 := rfl
  have three : (3 : UInt32).toNat = 3 := rfl
  have number : 2 < kept.toInt := Int32.lt_iff_toInt_lt.mp above
  have unsigned := toNat_toUInt32 (show 0 ≤ kept.toInt by omega)
  have bounded := kept.toInt_lt
  refine ⟨kept.toUInt32 - 1, kept.toUInt32 + 1, ?_, ?_, ?_⟩
  · have positive : (1 : UInt32) ≤ kept.toUInt32 := UInt32.le_iff_toNat_le.mpr (by omega)
    rw [UInt32.toNat_sub_of_le _ _ positive]
    omega
  · rw [UInt32.toNat_add]
    omega
  · have order : 3 < kept.toUInt32 ↔ 3 < kept.toInt := by
      rw [UInt32.lt_iff_toNat_lt]
      omega
    simp only [sweepRanges, above, ↓reduceIte, order]

/-- A standard stream is spared anyway. -/
theorem sweepRanges_of_standard {kept : Int32} (standard : ¬ standardError < kept) :
    sweepRanges (some kept) = [⟨3, largest⟩] := if_neg standard

/-- The ranges hold every number from 3 on that fits, except the one kept. -/
theorem inRanges_iff (keep : Option Int32) (number : Int) :
    InRanges (sweepRanges keep) number ↔
      3 ≤ number ∧ number ≤ largest.toNat ∧ ∀ kept, keep = some kept → number ≠ kept.toInt := by
  have three : (3 : UInt32).toNat = 3 := rfl
  have whole : InRanges [⟨3, largest⟩] number ↔ 3 ≤ number ∧ number ≤ largest.toNat := by
    simp only [inRanges_cons, inRanges_nil, or_false, holds_iff]
    omega
  cases keep with
  | none =>
      rw [sweepRanges, whole]
      simp
  | some kept =>
      simp only [Option.some.injEq, forall_eq']
      by_cases above : standardError < kept
      · have number : 2 < kept.toInt := Int32.lt_iff_toInt_lt.mp above
        have bounded := kept.toInt_lt
        have last : largest.toNat = 4294967295 := rfl
        obtain ⟨below, next, isBelow, isNext, ranges⟩ := sweepRanges_of_above above
        rw [ranges]
        split
        all_goals
          simp only [inRanges_cons, inRanges_nil, or_false, holds_iff]
          omega
      · have number : kept.toInt ≤ 2 :=
          Int.not_lt.mp fun more => above (Int32.lt_iff_toInt_lt.mpr more)
        rw [sweepRanges_of_standard above, whole]
        omega

/-- Each range ends before the next one begins, and none is empty. -/
theorem sweepRanges_ordered (keep : Option Int32) :
    ((sweepRanges keep).Pairwise fun lower upper => lower.last < upper.first) ∧
      ∀ range ∈ sweepRanges keep, range.first ≤ range.last := by
  have whole : (3 : UInt32) ≤ largest := by decide
  cases keep with
  | none => exact ⟨List.pairwise_singleton _ _, List.forall_mem_singleton.mpr whole⟩
  | some kept =>
      by_cases above : standardError < kept
      · have bounded := kept.toInt_lt
        have last : largest.toNat = 4294967295 := rfl
        have three : (3 : UInt32).toNat = 3 := rfl
        obtain ⟨below, next, isBelow, isNext, ranges⟩ := sweepRanges_of_above above
        have upper : next ≤ largest := UInt32.le_iff_toNat_le.mpr (by omega)
        rw [ranges]
        split
        case isTrue more =>
          have lower : 3 ≤ below := UInt32.le_iff_toNat_le.mpr (by omega)
          have apart : below < next := UInt32.lt_iff_toNat_lt.mpr (by omega)
          exact ⟨List.pairwise_pair.mpr apart, List.forall_mem_cons.mpr
            ⟨lower, List.forall_mem_singleton.mpr upper⟩⟩
        case isFalse =>
          exact ⟨List.pairwise_singleton _ _, List.forall_mem_singleton.mpr upper⟩
      · rw [sweepRanges_of_standard above]
        exact ⟨List.pairwise_singleton _ _, List.forall_mem_singleton.mpr whole⟩

/-- A descriptor is swept if its number lies in one of the ranges. -/
theorem isSwept_iff (keep : Option Int32) (descriptor : Int32) :
    isSwept keep descriptor = true ↔ InRanges (sweepRanges keep) descriptor.toInt := by
  have bounded := descriptor.toInt_lt
  have last : largest.toNat = 4294967295 := rfl
  have above : standardError < descriptor ↔ 2 < descriptor.toInt := Int32.lt_iff_toInt_lt
  have kept : some descriptor ≠ keep ↔
      ∀ kept, keep = some kept → descriptor.toInt ≠ kept.toInt := by
    refine ⟨?_, fun other same => other descriptor same.symm rfl⟩
    rintro other kept rfl same
    exact other (congrArg some (Int32.toInt_inj.mp same))
  rw [inRanges_iff, ← kept, isSwept, Bool.and_eq_true, decide_eq_true_eq, decide_eq_true_eq, above]
  refine ⟨fun swept => ⟨by omega, by omega, swept.2⟩, fun inside => ⟨by omega, inside.2.2⟩⟩

end SelfIsolation.Descriptor
