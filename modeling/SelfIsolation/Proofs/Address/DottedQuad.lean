import SelfIsolation.Address.NativeText
import SelfIsolation.Proofs.Text.Fields
import SelfIsolation.Proofs.Text.Numeral

/-! # Reading dotted quads

A number is put together again from its words (`SelfIsolation.Word.join_split`), so
an IPv4 address is read back from its dotted quad
(`SelfIsolation.IPv4.read?_write`). Whatever is read as a dotted quad consists of
digits and dots, so no text of an IPv6 address is.
-/

namespace SelfIsolation

namespace Word

/-- Words denote the lowest bits of the number from which they were split. -/
theorem join_split (width count n : Nat) :
    join (split width count n) = n % 2 ^ (width * count) := by
  induction count generalizing n with
  | zero => rw [Nat.mul_zero, Nat.pow_zero, Nat.mod_one]; rfl
  | succ count ih =>
      have front := ih (n >>> width)
      unfold join at front ⊢
      rw [split, List.foldl_append, front, List.foldl_cons, List.foldl_nil, BitVec.toNat_ofNat,
        Nat.shiftLeft_eq, Nat.shiftRight_eq_div_pow, Nat.mul_succ, Nat.add_comm (width * count),
        Nat.pow_add, Nat.mod_mul, Nat.mul_comm, Nat.add_comm]

/-- Zeros in front denote nothing. -/
theorem join_replicate_append {width : Nat} (count : Nat) (words : List (BitVec width)) :
    join (List.replicate count 0 ++ words) = join words := by
  induction count with
  | zero => rfl
  | succ count ih =>
      rw [← ih, List.replicate_succ, List.cons_append, join, join, List.foldl_cons,
        Nat.zero_shiftLeft]
      rfl

end Word

namespace IPv4

theorem join_octets (address : IPv4) : Word.join address.octets = address.bits.toNat :=
  (Word.join_split 8 4 _).trans (Nat.mod_eq_of_lt address.bits.isLt)

theorem ofOctets_octets (address : IPv4) : ofOctets address.octets = address := by
  rw [ofOctets, join_octets, BitVec.ofNat_toNat, BitVec.setWidth_eq]

/-- An octet is read back from its decimal digits. -/
theorem readOctet?_decimal (octet : BitVec 8) :
    readOctet? (Numeral.decimal octet.toNat) = some octet := by
  have small : octet.toNat < 256 := octet.isLt
  have short : (Numeral.decimal octet.toNat).length ≤ 3 :=
    Numeral.length_decimal_le (by decide) (by omega)
  have unpadded : (Numeral.decimal octet.toNat).head? = some '0' →
      (Numeral.decimal octet.toNat).length = 1 := by
    intro zero
    rw [Numeral.eq_zero_of_head?_decimal _ zero]
    rfl
  simp only [readOctet?, Numeral.readDecimal?_decimal, Option.bind_eq_bind, Option.bind_some,
    if_pos (And.intro short (And.intro unpadded small)), BitVec.ofNat_toNat, BitVec.setWidth_eq]

/-- The octets that were written are found again by splitting at the dots. -/
theorem splitOn_write (address : IPv4) :
    address.write.splitOn '.' = address.octets.map fun octet => Numeral.decimal octet.toNat := by
  refine List.splitOn_intercalate '.' ?_ ?_
  · intro field member dot
    obtain ⟨octet, -, rfl⟩ := List.mem_map.mp member
    cases Numeral.isDigit_of_mem_decimal dot
  · intro empty
    have count := congrArg List.length empty
    rw [List.length_map, octets, Word.length_split] at count
    cases count

/-- An address is read back from its dotted quad. -/
theorem read?_write (address : IPv4) : read? address.write = some address := by
  have four : (address.octets.map fun octet => Numeral.decimal octet.toNat).length = 4 := by
    rw [List.length_map, octets, Word.length_split]
  have octets : readOctets? address.write = some address.octets := by
    simp only [readOctets?, splitOn_write, four, ↓reduceIte]
    exact Numeral.mapM_of_reads readOctet?_decimal address.octets
  rw [read?, octets, Option.map_some, ofOctets_octets]

/-- An IPv4 text has no characters but dots and digits. -/
theorem of_mem_of_read? {text : List Char} {address : IPv4} (read : read? text = some address)
    {c : Char} (member : c ∈ text) : c = '.' ∨ c.isDigit = true := by
  obtain ⟨octets, read, -⟩ := Option.map_eq_some_iff.mp read
  simp only [readOctets?] at read
  split at read
  case isTrue =>
      have joined : ['.'].intercalate (text.splitOn '.') = text := List.intercalate_splitOn '.'
      rw [← joined] at member
      rcases mem_of_mem_intercalate member with dot | ⟨field, listed, inside⟩
      · exact .inl dot
      · obtain ⟨octet, read⟩ := Numeral.exists_of_mapM read listed
        obtain ⟨value, read, -⟩ := Option.bind_eq_some_iff.mp read
        exact .inr (Numeral.isDigit_of_readDecimal? read inside)
  case isFalse => cases read

/-- The text of an IPv4 address has no characters but dots and digits. -/
theorem of_mem_write {address : IPv4} {c : Char} (member : c ∈ address.write) :
    c = '.' ∨ c.isDigit = true :=
  of_mem_of_read? address.read?_write member

theorem dot_mem_write (address : IPv4) : '.' ∈ address.write := by
  by_cases member : '.' ∈ address.write
  · exact member
  · have single := congrArg List.length
      ((List.splitOn_eq_singleton member).symm.trans address.splitOn_write)
    rw [List.length_map, octets, Word.length_split] at single
    cases single

theorem colon_notMem_write (address : IPv4) : ':' ∉ address.write := by
  intro member
  rcases of_mem_write member with dot | digit
  · cases dot
  · cases digit

/-- A text with a colon is no dotted quad. -/
theorem read?_eq_none {text : List Char} (colon : ':' ∈ text) : read? text = none := by
  cases read : read? text with
  | none => rfl
  | some address =>
      rcases of_mem_of_read? read colon with dot | digit
      · cases dot
      · cases digit

end IPv4

end SelfIsolation
