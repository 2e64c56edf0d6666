import Mathlib.Algebra.Group.Nat.Defs
import SelfIsolation.Address.PrefixLength

/-! # Leading bits

What a prefix length keeps of an address is its leading bits. Two words agree on
their leading bits exactly when they are the same after the rest is cleared
(`SelfIsolation.Word.leading_eq_leading_iff`), or after it is shifted out
(`SelfIsolation.Word.agree_iff_div`). The mask of a length has that many leading ones
(`SelfIsolation.PrefixLength.getMsbD_netmask`), so masked addresses are equal
exactly when the addresses agree that far
(`SelfIsolation.Address.mask_eq_mask_iff`).
-/

namespace SelfIsolation

namespace Word

variable {width : Nat}

/-- Two words agree on their leading bits, counted from the most significant one. -/
def Agree (count : Nat) (left right : BitVec width) : Prop :=
  ∀ position < count, left.getMsbD position = right.getMsbD position

instance (count : Nat) (left right : BitVec width) : Decidable (Agree count left right) :=
  inferInstanceAs (Decidable (∀ position < count, left.getMsbD position = right.getMsbD position))

/-- A word with all but its leading bits cleared. -/
def leading (count : Nat) (word : BitVec width) : BitVec width :=
  word >>> (width - count) <<< (width - count)

variable {count : Nat} {left middle right : BitVec width}

theorem Agree.refl (count : Nat) (word : BitVec width) : Agree count word word :=
  fun _ _ => rfl

theorem Agree.symm (agree : Agree count left right) : Agree count right left :=
  fun position before => (agree position before).symm

theorem Agree.trans (first : Agree count left middle) (second : Agree count middle right) :
    Agree count left right :=
  fun position before => (first position before).trans (second position before)

/-- Words agree on fewer bits than they agree on. -/
theorem Agree.shorten {fewer : Nat} (agree : Agree count left right) (shorter : fewer ≤ count) :
    Agree fewer left right :=
  fun position before => agree position (Nat.lt_of_lt_of_le before shorter)

/-- The leading bits of a word are kept, and all others cleared. -/
theorem getMsbD_leading (count : Nat) (word : BitVec width) {position : Nat}
    (inside : position < width) :
    (leading count word).getMsbD position =
      (decide (position < count) && word.getMsbD position) := by
  rw [leading, BitVec.getMsbD_shiftLeft, BitVec.getMsbD_ushiftRight]
  by_cases kept : position < count
  · have within : position + (width - count) < width := by omega
    have past : ¬ position + (width - count) < width - count := by omega
    simp only [within, past, kept, decide_true, decide_false, Bool.not_false, Bool.true_and,
      Nat.add_sub_cancel]
  · have outside : ¬ position + (width - count) < width := by omega
    simp only [outside, kept, decide_false, Bool.false_and]

/-- Clearing the rest leaves the same word exactly if the leading bits are the same. -/
theorem leading_eq_leading_iff (bounded : count ≤ width) :
    leading count left = leading count right ↔ Agree count left right := by
  constructor
  · intro same position before
    have inside : position < width := Nat.lt_of_lt_of_le before bounded
    have bit := congrArg (fun word => word.getMsbD position) same
    simpa only [getMsbD_leading _ _ inside, before, decide_true, Bool.true_and] using bit
  · intro agree
    apply BitVec.eq_of_getMsbD_eq
    intro position inside
    rw [getMsbD_leading _ _ inside, getMsbD_leading _ _ inside]
    by_cases kept : position < count
    · rw [agree position kept]
    · rw [decide_eq_false kept, Bool.false_and, Bool.false_and]

/-- What is left of leading bits are the fewer ones. -/
theorem leading_leading (first second : Nat) (word : BitVec width) :
    leading second (leading first word) = leading (min first second) word := by
  apply BitVec.eq_of_getMsbD_eq
  intro position inside
  simp only [getMsbD_leading _ _ inside, Nat.lt_min, Bool.decide_and, Bool.and_left_comm,
    Bool.and_assoc]

/-- As a number, the leading bits are the word rounded down to a power of two. -/
theorem toNat_leading (count : Nat) (word : BitVec width) :
    (leading count word).toNat =
      word.toNat / 2 ^ (width - count) * 2 ^ (width - count) := by
  have small : word.toNat / 2 ^ (width - count) * 2 ^ (width - count) < 2 ^ width :=
    Nat.lt_of_le_of_lt (Nat.div_mul_le_self _ _) word.isLt
  rw [leading, BitVec.toNat_shiftLeft, BitVec.toNat_ushiftRight, Nat.shiftRight_eq_div_pow,
    Nat.shiftLeft_eq, Nat.mod_eq_of_lt small]

/-- Words agree on their leading bits exactly if these are the same number. -/
theorem agree_iff_div (bounded : count ≤ width) :
    Agree count left right ↔
      left.toNat / 2 ^ (width - count) = right.toNat / 2 ^ (width - count) := by
  rw [← leading_eq_leading_iff bounded, ← BitVec.toNat_inj, toNat_leading, toNat_leading]
  exact Nat.mul_left_inj (Nat.ne_of_gt (Nat.two_pow_pos _))

end Word

namespace PrefixLength

/-- The ones of a mask are shifted into place by less than the width, if there are any. -/
theorem netmask_eq_shift (length : PrefixLength) :
    (length.toNat = 0 ∧ length.netmask = 0) ∨
      ∃ rest : Fin 128, rest.val + length.toNat = 128 ∧
        length.netmask = BitVec.allOnes 128 <<< rest.val := by
  have bounded := length.le_width
  rw [netmask]
  split
  case isTrue empty => exact .inl ⟨empty, rfl⟩
  case isFalse nonempty =>
      exact .inr ⟨⟨128 - length.toNat, by omega⟩, Nat.sub_add_cancel bounded, rfl⟩

/-- A mask has as many leading ones as its length says, and zeros after them. -/
theorem getMsbD_netmask (length : PrefixLength) (position : Nat) :
    length.netmask.getMsbD position = decide (position < length.toNat) := by
  rcases length.netmask_eq_shift with ⟨empty, zero⟩ | ⟨rest, total, shifted⟩
  · rw [zero, empty, decide_eq_false (Nat.not_lt_zero position)]
    exact BitVec.getMsbD_zero
  · have bound : position + rest.val < 128 ↔ position < length.toNat := by omega
    rw [shifted, BitVec.getMsbD_shiftLeft, BitVec.getMsbD_allOnes, decide_eq_decide]
    exact bound

/-- The bits past a prefix, all set, are one less than the number of their values. -/
theorem toNat_rest (length : PrefixLength) :
    (BitVec.allOnes 128 >>> length.toNat).toNat = 2 ^ (128 - length.toNat) - 1 := by
  have positive : 0 < 2 ^ length.toNat := Nat.two_pow_pos _
  have whole : 2 ^ (128 - length.toNat) * 2 ^ length.toNat = 2 ^ 128 := by
    rw [← Nat.pow_add, Nat.sub_add_cancel length.le_width]
  have under : 2 ^ length.toNat ≤ 2 ^ (128 - length.toNat) * 2 ^ length.toNat :=
    Nat.le_mul_of_pos_left _ (Nat.two_pow_pos _)
  rw [BitVec.toNat_ushiftRight, BitVec.toNat_allOnes, Nat.shiftRight_eq_div_pow, ← whole]
  apply Nat.div_eq_of_lt_le
  · rw [Nat.sub_mul, Nat.one_mul]
    omega
  · rw [Nat.sub_add_cancel (Nat.two_pow_pos _)]
    omega

end PrefixLength

namespace Address

/-- Masking an address keeps its leading bits. -/
theorem bits_mask (address : Address) (length : PrefixLength) :
    (address.mask length).bits = Word.leading length.toNat address.bits := by
  apply BitVec.eq_of_getMsbD_eq
  intro position inside
  rw [mask, BitVec.getMsbD_and, PrefixLength.getMsbD_netmask, Word.getMsbD_leading _ _ inside,
    Bool.and_comm]

theorem eq_iff_bits {left right : Address} : left = right ↔ left.bits = right.bits :=
  ⟨fun same => congrArg bits same, fun same => congrArg mk same⟩

/-- Masked addresses are equal exactly if the addresses agree as far as the mask goes. -/
theorem mask_eq_mask_iff {left right : Address} {length : PrefixLength} :
    left.mask length = right.mask length ↔ Word.Agree length.toNat left.bits right.bits := by
  rw [eq_iff_bits, bits_mask, bits_mask]
  exact Word.leading_eq_leading_iff length.le_width

/-- An address agrees with its masked form as far as the mask goes. -/
theorem agree_mask (address : Address) (length : PrefixLength) :
    Word.Agree length.toNat (address.mask length).bits address.bits := by
  intro position before
  have inside : position < 128 := Nat.lt_of_lt_of_le before length.le_width
  rw [bits_mask, Word.getMsbD_leading _ _ inside, decide_eq_true before, Bool.true_and]

end Address

end SelfIsolation
