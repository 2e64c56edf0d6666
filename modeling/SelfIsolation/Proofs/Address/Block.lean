import Mathlib.Data.List.Basic
import SelfIsolation.Address.Block
import SelfIsolation.Proofs.Address.Extent
import SelfIsolation.Proofs.Address.RoundTrip

/-! # Reading address blocks

The reader of block text accepts exactly its grammar, an address, a slash and a
decimal length that is counted as the family of the notation counts it
(`SelfIsolation.Block.readParts?_exact`). What it accepts always makes a block, and
a block is read back from its text (`SelfIsolation.Block.valid_written`).
-/

namespace SelfIsolation

namespace PrefixLength

/-- A number is a unified length as it stands. -/
theorem ofNat?_eq_some_iff {n : Nat} {length : PrefixLength} :
    ofNat? n = some length ↔ length.toNat = n := by
  constructor
  · intro counted
    rw [ofNat?] at counted
    split at counted
    case isTrue => rw [← Option.some.inj counted]
    case isFalse => cases counted
  · rintro rfl
    exact dif_pos length.le_width

/-- A number up to 32 is an IPv4 length, counted past the mapping. -/
theorem ofIPv4?_eq_some_iff {n : Nat} {length : PrefixLength} :
    ofIPv4? n = some length ↔ n ≤ 32 ∧ length.toNat = n + mappingWidth := by
  constructor
  · intro counted
    rw [ofIPv4?] at counted
    split at counted
    case isTrue small =>
        rw [← Option.some.inj counted]
        exact ⟨small, rfl⟩
    case isFalse => cases counted
  · rintro ⟨small, value⟩
    rw [ofIPv4?, dif_pos small]
    exact congrArg some (by cases length; cases value; rfl)

end PrefixLength

namespace Address

theorem isIPv4_ofIPv4 (quad : IPv4) : (ofIPv4 quad).isIPv4 = true := by
  have front : (0xffff#96 ++ quad.bits) >>> 32 = 0xffff#128 := by
    have small : quad.bits.toNat < 2 ^ 32 := quad.bits.isLt
    apply BitVec.eq_of_toNat_eq
    rw [BitVec.toNat_ushiftRight, BitVec.toNat_append, Nat.shiftRight_or_distrib,
      Nat.shiftLeft_shiftRight, Nat.shiftRight_eq_div_pow, Nat.div_eq_of_lt small]
    rfl
  have mapped : (ofIPv4 quad).toIPv6.isMapped = true := beq_iff_eq.mpr front
  rw [isIPv4, family, if_pos mapped, decide_eq_true rfl]

/-- The text of an IPv4 address is a dotted quad. -/
theorem isSome_read?_write_of_isIPv4 {address : Address} (mapped : address.isIPv4 = true) :
    (IPv4.read? address.write).isSome = true := by
  have form : address.toIPv6.isMapped = true := by
    by_contra unmapped
    rw [isIPv4, family, if_neg unmapped] at mapped
    cases mapped
  rw [write, toIPv4?, IPv6.toIPv4?, if_pos form]
  dsimp only
  rw [IPv4.read?_write]
  rfl

/-- The text of an IPv6 address is in the notation of IPv6. -/
theorem isSome_native_write {address : Address} (unmapped : ¬ address.isIPv4 = true) :
    (IPv6.read? address.write).isSome = true := by
  have read := address.read?_write
  rw [read?] at read
  split at read
  case h_1 quad here =>
      cases read
      exact absurd (isIPv4_ofIPv4 quad) unmapped
  case h_2 =>
      obtain ⟨native, here, -⟩ := Option.map_eq_some_iff.mp read
      rw [here]
      rfl

end Address

namespace Block

/-- A text is split at its first slash: no slash stands before it. -/
theorem splitSlash?_eq_some_iff {text before after : List Char} :
    splitSlash? text = some (before, after) ↔ '/' ∉ before ∧ text = before ++ '/' :: after := by
  constructor
  · intro cut
    have whole : text.takeWhile (· != '/') ++ text.dropWhile (· != '/') = text :=
      List.takeWhile_append_dropWhile
    rw [splitSlash?] at cut
    split at cut
    case h_1 => cases cut
    case h_2 c rest found =>
        cases cut
        have slash : c = '/' := by
          have stopped := List.head?_dropWhile_not (· != '/') text
          rw [found, List.head?_cons] at stopped
          simpa using stopped
        rw [found, slash] at whole
        refine ⟨fun member => ?_, whole.symm⟩
        have passed := List.all_eq_true.mp List.all_takeWhile _ member
        cases passed
  · rintro ⟨slashless, rfl⟩
    have front : ∀ c ∈ before, (c != '/') = true := by
      intro c member
      exact bne_iff_ne.mpr fun same => slashless (same ▸ member)
    rw [splitSlash?, List.dropWhile_append_of_pos front, List.takeWhile_append_of_pos front,
      List.dropWhile_cons_of_neg (by decide), List.takeWhile_cons_of_neg (by decide),
      List.append_nil]

/-! ## The notation of the address -/

section

variable {before : List Char} (slashless : '/' ∉ before) (digits : List Char)

include slashless

/-- After IPv6 notation the length is read as it stands. -/
theorem readParts?_of_native {native : IPv6} (read : IPv6.read? before = some native) :
    readParts? (before ++ '/' :: digits) = (Numeral.readDecimal? digits).bind fun n =>
      if (Address.ofIPv6 native).isIPv4 ∧ n < PrefixLength.mappingWidth then none
      else (PrefixLength.ofNat? n).map fun length => (Address.ofIPv6 native, length) := by
  have short : ¬ Address.largestFormatSize ≤ before.length := by
    have bound := (IPv6.extent_of_read? read).1
    rw [Address.largestFormatSize]
    omega
  simp only [readParts?, splitSlash?_eq_some_iff.mpr ⟨slashless, rfl⟩, Option.bind_eq_bind,
    Option.bind_some, if_neg short, read]
  refine Option.bind_congr fun n _ => ?_
  split <;> cases PrefixLength.ofNat? n <;> rfl

/-- After a dotted quad the length is read as an IPv4 length. -/
theorem readParts?_of_quad {quad : IPv4} (read : IPv4.read? before = some quad) :
    readParts? (before ++ '/' :: digits) = (Numeral.readDecimal? digits).bind fun n =>
      (PrefixLength.ofIPv4? n).map fun length => (Address.ofIPv4 quad, length) := by
  have short : ¬ Address.largestFormatSize ≤ before.length := by
    have bound := IPv4.length_le_of_read? read
    rw [Address.largestFormatSize]
    omega
  simp only [readParts?, splitSlash?_eq_some_iff.mpr ⟨slashless, rfl⟩, Option.bind_eq_bind,
    Option.bind_some, if_neg short, IPv6.read?_eq_none_of_quad read, read]
  refine Option.bind_congr fun n _ => ?_
  cases PrefixLength.ofIPv4? n <;> rfl

/-- A block text whose address is in neither notation is refused. -/
theorem readParts?_of_unread (noNative : IPv6.read? before = none)
    (noQuad : IPv4.read? before = none) : readParts? (before ++ '/' :: digits) = none := by
  simp only [readParts?, splitSlash?_eq_some_iff.mpr ⟨slashless, rfl⟩, Option.bind_eq_bind,
    Option.bind_some, noNative, noQuad, Option.bind_none, Option.bind_fun_none, ite_self]

variable {digits} {address : Address} {length : PrefixLength}

/-- After IPv6 notation, a block text is accepted if its length is a decimal and spares the
mapping. -/
theorem readParts?_native_iff {native : IPv6} (read : IPv6.read? before = some native) :
    readParts? (before ++ '/' :: digits) = some (address, length) ↔
      address = Address.ofIPv6 native ∧ Numeral.Decimal digits length.toNat ∧
        (address.isIPv4 → PrefixLength.mappingWidth ≤ length.toNat) := by
  rw [readParts?_of_native slashless digits read]
  constructor
  · intro accepted
    obtain ⟨n, counted, accepted⟩ := Option.bind_eq_some_iff.mp accepted
    split at accepted
    case isTrue => cases accepted
    case isFalse covered =>
        obtain ⟨found, taken, same⟩ := Option.map_eq_some_iff.mp accepted
        cases same
        obtain rfl := PrefixLength.ofNat?_eq_some_iff.mp taken
        exact ⟨rfl, Numeral.readDecimal?_eq_some_iff.mp counted,
          fun mapped => Nat.le_of_not_lt fun below => covered ⟨mapped, below⟩⟩
  · rintro ⟨rfl, counted, covered⟩
    have taken : PrefixLength.ofNat? length.toNat = some length :=
      PrefixLength.ofNat?_eq_some_iff.mpr rfl
    have allowed : ¬ ((Address.ofIPv6 native).isIPv4 ∧
        length.toNat < PrefixLength.mappingWidth) :=
      fun cut => Nat.not_lt_of_le (covered cut.1) cut.2
    rw [Numeral.readDecimal?_eq_some_iff.mpr counted, Option.bind_some, if_neg allowed, taken]
    rfl

/-- After a dotted quad, a block text is accepted if its length is a decimal up to 32. -/
theorem readParts?_quad_iff {quad : IPv4} (read : IPv4.read? before = some quad) :
    readParts? (before ++ '/' :: digits) = some (address, length) ↔
      address = Address.ofIPv4 quad ∧ ∃ n ≤ 32, Numeral.Decimal digits n ∧
        length.toNat = n + PrefixLength.mappingWidth := by
  rw [readParts?_of_quad slashless digits read]
  constructor
  · intro accepted
    obtain ⟨n, counted, accepted⟩ := Option.bind_eq_some_iff.mp accepted
    obtain ⟨found, taken, same⟩ := Option.map_eq_some_iff.mp accepted
    cases same
    obtain ⟨small, value⟩ := PrefixLength.ofIPv4?_eq_some_iff.mp taken
    exact ⟨rfl, n, small, Numeral.readDecimal?_eq_some_iff.mp counted, value⟩
  · rintro ⟨rfl, n, small, counted, value⟩
    rw [Numeral.readDecimal?_eq_some_iff.mpr counted, Option.bind_some,
      PrefixLength.ofIPv4?_eq_some_iff.mpr ⟨small, value⟩]
    rfl

end

/-! ## The grammar -/

/-- A block text is an address in one of the two notations, a slash, and a length that suits the
notation. -/
theorem readParts?_eq_some_iff {text : List Char} {address : Address} {length : PrefixLength} :
    readParts? text = some (address, length) ↔
      ∃ before digits n, text = before ++ '/' :: digits ∧ '/' ∉ before ∧
        Address.read? before = some address ∧ Numeral.Decimal digits n ∧
        (((IPv6.read? before).isSome ∧ n ≤ 128 ∧ length.toNat = n ∧
            (address.isIPv4 → PrefixLength.mappingWidth ≤ n)) ∨
          ((IPv4.read? before).isSome ∧ n ≤ 32 ∧
            length.toNat = n + PrefixLength.mappingWidth)) := by
  constructor
  · intro accepted
    obtain ⟨⟨before, digits⟩, cut, -⟩ := Option.bind_eq_some_iff.mp accepted
    obtain ⟨slashless, rfl⟩ := splitSlash?_eq_some_iff.mp cut
    cases native : IPv6.read? before with
    | some sixteen =>
        obtain ⟨rfl, counted, covered⟩ := (readParts?_native_iff slashless native).mp accepted
        have named : Address.read? before = some (Address.ofIPv6 sixteen) := by
          rw [Address.read?_eq_native_first, native]
        exact ⟨before, digits, _, rfl, slashless, named, counted,
          .inl ⟨by rw [native]; rfl, length.le_width, rfl, covered⟩⟩
    | none =>
        cases quad : IPv4.read? before with
        | some four =>
            obtain ⟨rfl, n, small, counted, value⟩ :=
              (readParts?_quad_iff slashless quad).mp accepted
            have named : Address.read? before = some (Address.ofIPv4 four) := by
              rw [Address.read?, quad]
            exact ⟨before, digits, n, rfl, slashless, named, counted,
              .inr ⟨by rw [quad]; rfl, small, value⟩⟩
        | none =>
            rw [readParts?_of_unread slashless digits native quad] at accepted
            cases accepted
  · rintro ⟨before, digits, n, rfl, slashless, named, counted, ⟨written, -, rfl, covered⟩ |
      ⟨written, small, value⟩⟩
    · obtain ⟨native, read⟩ := Option.isSome_iff_exists.mp written
      rw [Address.read?_eq_native_first, read] at named
      exact (readParts?_native_iff slashless read).mpr
        ⟨(Option.some.inj named).symm, counted, covered⟩
    · obtain ⟨quad, read⟩ := Option.isSome_iff_exists.mp written
      rw [Address.read?, read] at named
      exact (readParts?_quad_iff slashless read).mpr
        ⟨(Option.some.inj named).symm, n, small, counted, value⟩

/-- A length past the last bit is refused, however long its numeral is. -/
theorem readParts?_eq_none_of_long {before digits : List Char} {n : Nat}
    (counted : Numeral.Decimal digits n) (long : 128 < n) :
    readParts? (before ++ '/' :: digits) = none := by
  cases accepted : readParts? (before ++ '/' :: digits) with
  | none => rfl
  | some parts =>
      obtain ⟨front, back, m, same, slashless, -, counted', form⟩ :=
        readParts?_eq_some_iff.mp accepted
      have slashlessBack : '/' ∉ back := fun member => by
        have digit := List.all_eq_true.mp counted'.digits.2.1 _ member
        cases digit
      obtain ⟨-, -, rfl⟩ :=
        (List.append_cons_inj_of_notMem slashless slashlessBack).mp same.symm
      have value := counted'.unique counted
      rcases form with ⟨-, small, -⟩ | ⟨-, small, -⟩ <;> omega

/-- **The grammar of address blocks.** The accepted texts are an address without a slash, a slash
and a decimal length of any number of digits, which IPv6 notation takes as it stands, at least the
mapping for a mapped address, and a dotted quad takes up to 32 and past the mapping. The notations
have no text in common, so the order in which they are tried makes no difference, and every
address text fits into the room that an address text may take. -/
theorem readParts?_exact :
    (∀ text address length, readParts? text = some (address, length) ↔
      ∃ before digits n, text = before ++ '/' :: digits ∧ '/' ∉ before ∧
        Address.read? before = some address ∧ Numeral.Decimal digits n ∧
        (((IPv6.read? before).isSome ∧ n ≤ 128 ∧ length.toNat = n ∧
            (address.isIPv4 → PrefixLength.mappingWidth ≤ n)) ∨
          ((IPv4.read? before).isSome ∧ n ≤ 32 ∧
            length.toNat = n + PrefixLength.mappingWidth))) ∧
    (∀ text, IPv4.read? text = none ∨ IPv6.read? text = none) ∧
    (∀ text, Address.read? text = match IPv6.read? text with
      | some native => some (Address.ofIPv6 native)
      | none => (IPv4.read? text).map Address.ofIPv4) ∧
    (∀ text address, Address.read? text = some address →
      (String.ofList text).utf8ByteSize < Address.largestFormatSize) ∧
    ∀ before digits n, Numeral.Decimal digits n → 128 < n →
      readParts? (before ++ '/' :: digits) = none := by
  refine ⟨fun _ _ _ => readParts?_eq_some_iff, fun text => ?_, Address.read?_eq_native_first,
    fun _ _ => Address.utf8ByteSize_lt_of_read?, fun _ _ _ => readParts?_eq_none_of_long⟩
  cases quad : IPv4.read? text with
  | none => exact .inl rfl
  | some four => exact .inr (IPv6.read?_eq_none_of_quad quad)

/-! ## Written blocks -/

/-- The length that is read for an IPv4 address covers the mapping. -/
theorem covers_mapping_of_readParts? {text : List Char} {address : Address}
    {length : PrefixLength} (accepted : readParts? text = some (address, length)) :
    address.isIPv4 → PrefixLength.mappingWidth ≤ length.toNat := by
  obtain ⟨before, digits, n, -, -, -, -, ⟨-, -, rfl, covered⟩ | ⟨-, -, value⟩⟩ :=
    readParts?_eq_some_iff.mp accepted
  · exact covered
  · intro
    omega

/-- The text of a block denotes its address and its length. -/
theorem readParts?_write (block : Block) :
    readParts? block.write = some (block.address, block.length) := by
  have read := block.address.read?_write
  refine readParts?_eq_some_iff.mpr ⟨block.address.write, Numeral.decimal block.nativeLength,
    block.nativeLength, rfl, Address.slash_notMem_of_read? read, read,
    Numeral.readDecimal?_eq_some_iff.mp (Numeral.readDecimal?_decimal _), ?_⟩
  have bounded := block.length.le_width
  by_cases mapped : block.address.isIPv4 = true
  · have covered := block.covers_mapping mapped
    have counted : block.nativeLength = block.length.toNat - PrefixLength.mappingWidth := by
      rw [nativeLength, family, of_decide_eq_true mapped, PrefixLength.forFamily]
    rw [counted]
    refine .inr ⟨Address.isSome_read?_write_of_isIPv4 mapped, ?_, ?_⟩
    · rw [PrefixLength.mappingWidth]
      omega
    · omega
  · have native : block.family = .v6 := by
      cases named : block.family with
      | v4 => exact absurd (decide_eq_true named) mapped
      | v6 => rfl
    have counted : block.nativeLength = block.length.toNat := by
      rw [nativeLength, native, PrefixLength.forFamily]
    rw [counted]
    exact .inl
      ⟨Address.isSome_native_write mapped, bounded, rfl, fun claimed => absurd claimed mapped⟩

/-- **Valid blocks and their text.** What the reader of block text accepts always makes a block, so
every block that was read is made of its own address and length; and a block, made of parts or read,
is read back from its text. -/
theorem valid_written :
    (∀ text address length, readParts? text = some (address, length) →
      ∃ block, ofParts? address length = some block ∧ read? text = some block ∧
        block.address = address ∧ block.length = length) ∧
    (∀ text block, parse? text = some block →
      ofParts? block.address block.length = some block ∧
        (block.address.isIPv4 → PrefixLength.mappingWidth ≤ block.length.toNat)) ∧
    ∀ block : Block, parse? (toString block) = some block := by
  have made : ∀ block : Block, ofParts? block.address block.length = some block :=
    fun block => dif_pos block.covers_mapping
  refine ⟨fun text address length accepted => ?_, fun _ block _ => ⟨made block,
    block.covers_mapping⟩, fun block => ?_⟩
  · have covered := covers_mapping_of_readParts? accepted
    have whole := made ⟨address, length, covered⟩
    refine ⟨⟨address, length, covered⟩, whole, ?_, rfl, rfl⟩
    rw [read?, accepted]
    exact whole
  · change read? (String.ofList block.write).toList = some block
    rw [String.toList_ofList, read?, readParts?_write]
    exact made block

end Block

end SelfIsolation
