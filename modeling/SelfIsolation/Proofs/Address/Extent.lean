import Mathlib.Algebra.Group.Nat.Defs
import SelfIsolation.Address.Text
import SelfIsolation.Proofs.Address.Compressed

/-! # The extent of address notation

Address notation holds hexadecimal digits, dots and colons only. IPv6 notation
never lacks a colon, so no text is read in both families
(`SelfIsolation.IPv6.read?_eq_none_of_quad`). A dotted quad has at most fifteen
characters and IPv6 notation at most forty-five
(`SelfIsolation.IPv6.extent_of_read?`), each a single byte: the largest format size
has room for every text that is read
(`SelfIsolation.Address.utf8ByteSize_lt_of_read?`).
-/

namespace SelfIsolation

/-- The characters of address notation. -/
def IsAddressCharacter (c : Char) : Prop :=
  c = ':' ∨ c = '.' ∨ ∃ digit, Numeral.hexDigit? c = some digit

/-- Digits occur in addresses. -/
theorem isAddressCharacter_of_isDigit {c : Char} (digit : c.isDigit = true) :
    IsAddressCharacter c := by
  obtain ⟨d, rfl⟩ := Numeral.exists_digitChar digit
  exact .inr (.inr ⟨d, Numeral.hexDigit?_digitChar (by omega)⟩)

namespace IsAddressCharacter

/-- What occurs in addresses takes one byte. -/
theorem utf8Size_eq {c : Char} (allowed : IsAddressCharacter c) : c.utf8Size = 1 := by
  rcases allowed with rfl | rfl | ⟨digit, read⟩
  · rfl
  · rfl
  · rw [Numeral.hexDigit?] at read
    rw [Char.utf8Size_eq_one_iff]
    split at read
    case isTrue decimal => exact UInt32.le_trans decimal.2 (by decide)
    case isFalse =>
        split at read
        case isTrue lower => exact UInt32.le_trans lower.2 (by decide)
        case isFalse =>
            split at read
            case isTrue upper => exact UInt32.le_trans upper.2 (by decide)
            case isFalse => cases read

/-- No slash occurs in an address. -/
theorem ne_slash {c : Char} (allowed : IsAddressCharacter c) : c ≠ '/' := by
  rintro rfl
  rcases allowed with colon | dot | ⟨digit, read⟩
  · cases colon
  · cases dot
  · cases read

end IsAddressCharacter

/-! ## Dotted quads -/

namespace IPv4

/-- What stands in an IPv4 text occurs in addresses. -/
theorem isAddressCharacter_of_mem {text : List Char} {address : IPv4}
    (read : read? text = some address) {c : Char} (member : c ∈ text) : IsAddressCharacter c := by
  rcases of_mem_of_read? read member with dot | digit
  · exact .inr (.inl dot)
  · exact isAddressCharacter_of_isDigit digit

/-- An IPv4 text has at most four octets of three digits and three dots. -/
theorem length_le_of_read? {text : List Char} {address : IPv4} (read : read? text = some address) :
    text.length ≤ 15 := by
  obtain ⟨octets, read, -⟩ := Option.map_eq_some_iff.mp read
  simp only [readOctets?] at read
  split at read
  case isTrue four =>
      have short : ∀ field ∈ text.splitOn '.', field.length ≤ 3 := by
        intro field member
        obtain ⟨octet, read⟩ := Numeral.exists_of_mapM read member
        obtain ⟨value, -, read⟩ := Option.bind_eq_some_iff.mp read
        split at read
        case isTrue form => exact form.1
        case isFalse => cases read
      have whole : (['.'].intercalate (text.splitOn '.')).length + 1 ≤
          (3 + 1) * (text.splitOn '.').length :=
        length_intercalate_le (List.ne_nil_of_length_pos (by omega)) short
      rw [List.intercalate_splitOn, four] at whole
      omega
  case isFalse => cases read

end IPv4

/-! ## IPv6 notation -/

namespace IPv6

/-- A group has at most four hexadecimal digits. -/
theorem readGroup?_eq_some {text : List Char} {group : BitVec 16}
    (read : readGroup? text = some group) :
    text.length ≤ 4 ∧ ∀ c ∈ text, ∃ digit, Numeral.hexDigit? c = some digit := by
  rw [readGroup?] at read
  split at read
  case isTrue short =>
      obtain ⟨value, read, -⟩ := Option.map_eq_some_iff.mp read
      exact ⟨short, fun c member => Numeral.hexDigit?_of_readHexadecimal? read member⟩
  case isFalse => cases read

/-- A dotted end is an IPv4 text and stands for two groups. -/
theorem readDotted?_eq_some {text : List Char} {groups : List (BitVec 16)}
    (read : readDotted? text = some groups) :
    groups.length = 2 ∧ ∃ address, IPv4.read? text = some address := by
  obtain ⟨address, quad, rfl⟩ := Option.map_eq_some_iff.mp read
  exact ⟨Word.length_split _ _ _, address, quad⟩

/-- A single field is a group, or a dotted quad in place of two groups. -/
theorem readFields?_singleton {dotted : Bool} {field : List Char} {groups : List (BitVec 16)}
    (read : readFields? dotted [field] = some groups) :
    (∃ group, readGroup? field = some group ∧ groups = [group]) ∨
      dotted = true ∧ readDotted? field = some groups := by
  rw [readFields?] at read
  split at read
  case h_1 group here => exact .inl ⟨group, here, (Option.some.inj read).symm⟩
  case h_2 =>
      split at read
      case isTrue last => exact .inr ⟨last, read⟩
      case isFalse => cases read

/-- The first of several fields is a group, and the others are read alike. -/
theorem readFields?_cons {dotted : Bool} {field next : List Char} {fields : List (List Char)}
    {groups : List (BitVec 16)}
    (read : readFields? dotted (field :: next :: fields) = some groups) :
    ∃ group later, readGroup? field = some group ∧
      readFields? dotted (next :: fields) = some later ∧ groups = group :: later := by
  obtain ⟨group, here, read⟩ := Option.bind_eq_some_iff.mp read
  obtain ⟨later, there, same⟩ := Option.bind_eq_some_iff.mp read
  exact ⟨group, later, here, there, (Option.some.inj same).symm⟩

/-- Each group takes up to four digits and a colon, a dotted quad five characters more than the
two groups that it stands for. -/
theorem length_le_of_readFields? {dotted : Bool} {fields : List (List Char)}
    {groups : List (BitVec 16)} (read : readFields? dotted fields = some groups) :
    ([':'].intercalate fields).length ≤ 5 * groups.length + (if dotted then 5 else 0) := by
  induction fields generalizing groups with
  | nil => exact Nat.zero_le _
  | cons field fields ih =>
      cases fields with
      | nil =>
          rw [List.intercalate_singleton]
          rcases readFields?_singleton read with ⟨group, here, rfl⟩ | ⟨rfl, here⟩
          · have short := (readGroup?_eq_some here).1
            rw [List.length_singleton]
            omega
          · obtain ⟨two, address, quad⟩ := readDotted?_eq_some here
            have short := IPv4.length_le_of_read? quad
            rw [two, if_pos rfl]
            omega
      | cons next fields =>
          obtain ⟨group, later, here, there, rfl⟩ := readFields?_cons read
          have short := (readGroup?_eq_some here).1
          have rest := ih there
          rw [List.intercalate_cons_cons, List.length_append, List.length_append,
            List.length_singleton, List.length_cons]
          omega

/-- What stands in a field that is read occurs in addresses. -/
theorem isAddressCharacter_of_readFields? {dotted : Bool} {fields : List (List Char)}
    {groups : List (BitVec 16)} (read : readFields? dotted fields = some groups)
    {field : List Char} (listed : field ∈ fields) {c : Char} (member : c ∈ field) :
    IsAddressCharacter c := by
  induction fields generalizing groups with
  | nil => cases listed
  | cons first fields ih =>
      have ofGroup : ∀ {group}, readGroup? first = some group → c ∈ first →
          IsAddressCharacter c :=
        fun here member => .inr (.inr ((readGroup?_eq_some here).2 c member))
      cases fields with
      | nil =>
          obtain rfl := List.mem_singleton.mp listed
          rcases readFields?_singleton read with ⟨group, here, -⟩ | ⟨-, here⟩
          · exact ofGroup here member
          · obtain ⟨-, address, quad⟩ := readDotted?_eq_some here
            exact IPv4.isAddressCharacter_of_mem quad member
      | cons next fields =>
          obtain ⟨group, later, here, there, -⟩ := readFields?_cons read
          rcases List.mem_cons.mp listed with rfl | listed
          · exact ofGroup here member
          · exact ih there listed

/-- A gap is two colons between what stands before and after it. -/
theorem splitGap?_eq_some {text before after : List Char}
    (split : splitGap? text = some (before, after)) : text = before ++ ':' :: ':' :: after := by
  fun_induction splitGap? text generalizing before with
  | case1 rest =>
      cases split
      rfl
  | case2 c rest first ih =>
      obtain ⟨⟨front, back⟩, found, same⟩ := Option.map_eq_some_iff.mp split
      cases same
      rw [List.cons_append, ← ih found]
  | case3 => cases split

/-- A text whose fields between colons are read has at most five characters for each group, and five
more for a dotted end. -/
theorem extent_of_splitOn {dotted : Bool} {text : List Char} {groups : List (BitVec 16)}
    (read : readFields? dotted (text.splitOn ':') = some groups) :
    text.length ≤ 5 * groups.length + (if dotted then 5 else 0) ∧
      ∀ c ∈ text, IsAddressCharacter c := by
  have joined : [':'].intercalate (text.splitOn ':') = text := List.intercalate_splitOn ':'
  refine ⟨?_, fun c member => ?_⟩
  · have whole := length_le_of_readFields? read
    rwa [joined] at whole
  · rw [← joined] at member
    rcases mem_of_mem_intercalate member with colon | ⟨field, listed, inside⟩
    · exact .inl colon
    · exact isAddressCharacter_of_readFields? read listed inside

/-- A side of the gap has at most five characters for each group, and five more for a dotted end. -/
theorem extent_of_readSide? {dotted : Bool} {text : List Char} {groups : List (BitVec 16)}
    (read : readSide? dotted text = some groups) :
    text.length ≤ 5 * groups.length + (if dotted then 5 else 0) ∧
      ∀ c ∈ text, IsAddressCharacter c := by
  rw [readSide?] at read
  split at read
  case isTrue empty =>
      rw [List.isEmpty_iff.mp empty]
      exact ⟨Nat.zero_le _, fun c member => absurd member List.not_mem_nil⟩
  case isFalse => exact extent_of_splitOn read

/-- IPv6 notation has at most forty-five characters: six groups with their colons and a dotted
quad. With a gap at most seven groups are written, which leaves room for its colons. -/
theorem extent_of_read? {text : List Char} {address : IPv6} (read : read? text = some address) :
    text.length ≤ 45 ∧ ∀ c ∈ text, IsAddressCharacter c := by
  obtain ⟨groups, read, -⟩ := Option.map_eq_some_iff.mp read
  rw [readGroups?] at read
  split at read
  case h_1 =>
      obtain ⟨all, read, same⟩ := Option.bind_eq_some_iff.mp read
      obtain ⟨short, allowed⟩ := extent_of_splitOn read
      split at same
      case isTrue eight =>
          rw [eight, if_pos rfl] at short
          exact ⟨short, allowed⟩
      case isFalse => cases same
  case h_2 before after gap =>
      obtain ⟨front, beforeRead, read⟩ := Option.bind_eq_some_iff.mp read
      obtain ⟨back, afterRead, same⟩ := Option.bind_eq_some_iff.mp read
      obtain ⟨shortBefore, allowedBefore⟩ := extent_of_readSide? beforeRead
      obtain ⟨shortAfter, allowedAfter⟩ := extent_of_readSide? afterRead
      rw [if_neg Bool.false_ne_true] at shortBefore
      rw [if_pos rfl] at shortAfter
      split at same
      case isTrue room =>
          rw [splitGap?_eq_some gap]
          refine ⟨?_, fun c member => ?_⟩
          · rw [List.length_append, List.length_cons, List.length_cons]
            omega
          · rcases List.mem_append.mp member with there | there
            · exact allowedBefore c there
            · rcases List.mem_cons.mp there with colon | there
              · exact .inl colon
              · rcases List.mem_cons.mp there with colon | there
                · exact .inl colon
                · exact allowedAfter c there
      case isFalse => cases same

/-- A text without a colon is a single field, which makes up at most two groups. -/
theorem colon_mem_of_read? {text : List Char} {address : IPv6}
    (read : read? text = some address) : ':' ∈ text := by
  by_contra colonless
  have gapless : splitGap? text = none := by
    have whole := splitGap?_append colonless []
    rwa [List.append_nil, splitGap?, Option.map_none] at whole
  obtain ⟨groups, read, -⟩ := Option.map_eq_some_iff.mp read
  rw [readGroups?, gapless] at read
  obtain ⟨all, read, same⟩ := Option.bind_eq_some_iff.mp read
  rw [List.splitOn_eq_singleton colonless] at read
  split at same
  case isTrue eight =>
      rcases readFields?_singleton read with ⟨group, -, rfl⟩ | ⟨-, quad⟩
      · cases eight
      · have two := (readDotted?_eq_some quad).1
        omega
  case isFalse => cases same

/-- No text is read in both families. -/
theorem read?_eq_none_of_quad {text : List Char} {quad : IPv4}
    (read : IPv4.read? text = some quad) : read? text = none := by
  cases native : read? text with
  | none => rfl
  | some address =>
      have neither := IPv4.read?_eq_none (colon_mem_of_read? native)
      rw [read] at neither
      cases neither

end IPv6

/-! ## Addresses of either family -/

/-- A text of characters of one byte has as many bytes as characters. -/
theorem utf8ByteSize_ofList_of_single {text : List Char} (single : ∀ c ∈ text, c.utf8Size = 1) :
    (String.ofList text).utf8ByteSize = text.length := by
  induction text with
  | nil => rfl
  | cons c text ih =>
      have here : c.utf8Size = 1 := single c List.mem_cons_self
      have there := ih fun c member => single c (List.mem_cons_of_mem _ member)
      have whole : String.ofList (c :: text) = String.singleton c ++ String.ofList text := by
        rw [String.singleton_eq_ofList, ← String.ofList_append, List.singleton_append]
      rw [whole, String.utf8ByteSize_append, String.utf8ByteSize_singleton, here, there,
        List.length_cons, Nat.add_comm]

namespace Address

/-- The order in which the families are tried makes no difference. -/
theorem read?_eq_native_first (text : List Char) :
    read? text = match IPv6.read? text with
      | some native => some (ofIPv6 native)
      | none => (IPv4.read? text).map ofIPv4 := by
  cases quad : IPv4.read? text with
  | none =>
      rw [read?, quad]
      cases IPv6.read? text <;> rfl
  | some address =>
      rw [read?, quad, IPv6.read?_eq_none_of_quad quad]
      rfl

/-- An address text has at most 45 characters, and only those that occur in addresses. -/
theorem extent_of_read? {text : List Char} {address : Address} (read : read? text = some address) :
    text.length ≤ 45 ∧ ∀ c ∈ text, IsAddressCharacter c := by
  rw [read?] at read
  split at read
  case h_1 quad here =>
      have short := IPv4.length_le_of_read? here
      exact ⟨by omega, fun c member => IPv4.isAddressCharacter_of_mem here member⟩
  case h_2 =>
      obtain ⟨native, here, -⟩ := Option.map_eq_some_iff.mp read
      exact IPv6.extent_of_read? here

theorem slash_notMem_of_read? {text : List Char} {address : Address}
    (read : read? text = some address) : '/' ∉ text :=
  fun member => ((extent_of_read? read).2 _ member).ne_slash rfl

/-- The largest format size has room for every text that is read, counted in bytes. -/
theorem utf8ByteSize_lt_of_read? {text : List Char} {address : Address}
    (read : read? text = some address) :
    (String.ofList text).utf8ByteSize < largestFormatSize := by
  obtain ⟨short, allowed⟩ := extent_of_read? read
  rw [utf8ByteSize_ofList_of_single fun c member => (allowed c member).utf8Size_eq,
    largestFormatSize]
  omega

end Address

end SelfIsolation
