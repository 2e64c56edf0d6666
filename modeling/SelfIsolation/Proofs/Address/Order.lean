import SelfIsolation.Proofs.Address.DottedQuad
import SelfIsolation.Proofs.Address.LeadingBits

/-! # The order of addresses

Addresses are ordered by their octets, the first difference deciding. Lists of words
of one length are ordered that way as the numbers they denote
(`SelfIsolation.Word.compareLex_eq`), so the order of addresses is the order of
their bits as numbers (`SelfIsolation.Address.compare_eq`), in which both families
are mixed. The octets determine the address, and its family with it
(`SelfIsolation.Address.eq_iff_family_octets`).
-/

namespace SelfIsolation

/-- Of numbers in two parts, the high parts decide if they differ. -/
theorem compare_mul_add {base : Nat} (leftHigh rightHigh : Nat) {leftLow rightLow : Nat}
    (leftSmall : leftLow < base) (rightSmall : rightLow < base) :
    compare (leftHigh * base + leftLow) (rightHigh * base + rightLow) =
      (compare leftHigh rightHigh).then (compare leftLow rightLow) := by
  have below : ∀ {high low other otherLow : Nat}, low < base → high < other →
      high * base + low < other * base + otherLow := by
    intro high low other otherLow small before
    calc high * base + low < high * base + base := Nat.add_lt_add_left small _
      _ = (high + 1) * base := (Nat.succ_mul high base).symm
      _ ≤ other * base := Nat.mul_le_mul_right base before
      _ ≤ other * base + otherLow := Nat.le_add_right _ _
  rcases Nat.lt_trichotomy leftHigh rightHigh with before | same | after
  · rw [Nat.compare_eq_lt.mpr before, Nat.compare_eq_lt.mpr (below leftSmall before),
      Ordering.lt_then]
  · subst same
    rw [Nat.compare_eq_eq.mpr rfl, Ordering.eq_then, Nat.compare_eq_ite_lt,
      Nat.compare_eq_ite_lt]
    simp only [Nat.add_lt_add_iff_left]
  · rw [Nat.compare_eq_gt.mpr after, Nat.compare_eq_gt.mpr (below rightSmall after),
      Ordering.gt_then]

namespace Word

variable {width : Nat}

/-- One word more multiplies what can be denoted by what the word can. -/
theorem two_pow_length_cons (word : BitVec width) (words : List (BitVec width)) :
    2 ^ (width * (word :: words).length) = 2 ^ width * 2 ^ (width * words.length) := by
  rw [List.length_cons, Nat.mul_succ, Nat.add_comm, Nat.pow_add]

/-- A value that words continue is shifted past all of them. -/
theorem foldl_eq_add_join (words : List (BitVec width)) (value : Nat) :
    words.foldl (fun value word => value <<< width + word.toNat) value =
      value * 2 ^ (width * words.length) + join words := by
  induction words generalizing value with
  | nil => rw [List.foldl_nil, List.length_nil, Nat.mul_zero, Nat.pow_zero, Nat.mul_one]; rfl
  | cons word words ih =>
      rw [join, List.foldl_cons, List.foldl_cons, ih, ih (0 <<< width + word.toNat),
        two_pow_length_cons, Nat.zero_shiftLeft, Nat.zero_add, Nat.shiftLeft_eq, Nat.add_mul,
        Nat.mul_assoc, Nat.add_assoc]

/-- The first word counts as often as the words after it have values. -/
theorem join_cons (word : BitVec width) (words : List (BitVec width)) :
    join (word :: words) = word.toNat * 2 ^ (width * words.length) + join words := by
  rw [join, List.foldl_cons, foldl_eq_add_join, Nat.zero_shiftLeft, Nat.zero_add]

/-- What words denote is bounded by their number. -/
theorem join_lt (words : List (BitVec width)) : join words < 2 ^ (width * words.length) := by
  induction words with
  | nil => exact Nat.two_pow_pos _
  | cons word words ih =>
      calc join (word :: words)
          = word.toNat * 2 ^ (width * words.length) + join words := join_cons word words
        _ < word.toNat * 2 ^ (width * words.length) + 2 ^ (width * words.length) :=
            Nat.add_lt_add_left ih _
        _ = (word.toNat + 1) * 2 ^ (width * words.length) := (Nat.succ_mul _ _).symm
        _ ≤ 2 ^ width * 2 ^ (width * words.length) := Nat.mul_le_mul_right _ word.isLt
        _ = 2 ^ (width * (word :: words).length) := (two_pow_length_cons word words).symm

/-- Lists of words are ordered, the first difference deciding, as the numbers that they denote. -/
theorem compareLex_eq {left right : List (BitVec width)} (level : left.length = right.length) :
    List.compareLex compare (left.map BitVec.toNat) (right.map BitVec.toNat) =
      compare (join left) (join right) := by
  induction left generalizing right with
  | nil =>
      obtain rfl := List.length_eq_zero_iff.mp level.symm
      exact (Nat.compare_eq_eq.mpr rfl).symm
  | cons word words ih =>
      cases right with
      | nil => cases level
      | cons other others =>
          -- Both rests have one length, so what they denote stays below the same power.
          have rest : words.length = others.length := Nat.succ.inj level
          have otherSmall := join_lt others
          rw [← rest] at otherSmall
          rw [List.map_cons, List.map_cons, List.compareLex_cons_cons, ih rest, join_cons,
            join_cons, ← rest, compare_mul_add _ _ (join_lt words) otherSmall]

end Word

theorem IPv6.join_octets (address : IPv6) : Word.join address.octets = address.bits.toNat :=
  (Word.join_split 8 16 _).trans (Nat.mod_eq_of_lt address.bits.isLt)

namespace Address

theorem length_octets (address : Address) : address.octets.length = 16 :=
  Word.length_split 8 16 _

/-- The octets of an address denote its number. -/
theorem join_octets (address : Address) : Word.join address.octets = address.bits.toNat :=
  address.toIPv6.join_octets

/-- Addresses are ordered as their bits, read as numbers. -/
theorem compare_eq (left right : Address) :
    compare left right = compare left.bits.toNat right.bits.toNat := by
  have level : left.octets.length = right.octets.length := by
    rw [length_octets, length_octets]
  rw [← join_octets left, ← join_octets right]
  exact Word.compareLex_eq level

/-- The order of addresses is that of their numbers. -/
theorem isLE_compare_iff {left right : Address} :
    (compare left right).isLE ↔ left.bits.toNat ≤ right.bits.toNat := by
  rw [compare_eq]
  exact Nat.isLE_compare

/-- The octets determine the address. -/
theorem octets_injective : Function.Injective octets := by
  intro left right same
  have value := congrArg Word.join same
  rw [join_octets, join_octets] at value
  exact eq_iff_bits.mpr (BitVec.eq_of_toNat_eq value)

/-- Addresses are equal exactly if their families and their octets are. -/
theorem eq_iff_family_octets {left right : Address} :
    left = right ↔ left.family = right.family ∧ left.octets = right.octets := by
  constructor
  · rintro rfl
    exact ⟨rfl, rfl⟩
  · rintro ⟨-, same⟩
    exact octets_injective same

end Address

end SelfIsolation
