import SelfIsolation.Control.Query
import SelfIsolation.Proofs.Address.Block

/-! # Formatted addresses

A written address is read back, so what bounds the texts that are read also bounds
those that are written: a dotted quad has at most fifteen bytes and any other text
at most forty-five. The size that is asked for before formatting leaves room for
these and a terminator, so formatting never runs out of room afterwards
(`SelfIsolation.Address.format?_fits`).
-/

namespace SelfIsolation

namespace Address

/-- An address is written with at most 45 characters. -/
theorem length_write_le (address : Address) : address.write.length ≤ 45 :=
  (extent_of_read? address.read?_write).1

/-- An IPv4 address is written with at most 15 characters. -/
theorem length_write_le_of_isIPv4 {address : Address} (mapped : address.isIPv4 = true) :
    address.write.length ≤ 15 := by
  obtain ⟨quad, read⟩ :=
    Option.isSome_iff_exists.mp (isSome_read?_write_of_isIPv4 mapped)
  exact IPv4.length_le_of_read? read

/-- The size that is asked for leaves room for a terminator. -/
theorem length_writeOptional_lt (address : Option Address) :
    (writeOptional address).length < formatSize address := by
  cases address with
  | none => decide
  | some address =>
      rw [writeOptional, formatSize]
      cases named : address.family with
      | v4 => exact Nat.lt_succ_of_le (length_write_le_of_isIPv4 (decide_eq_true named))
      | v6 => exact Nat.lt_succ_of_le address.length_write_le

/-- Every character that is written takes one byte. -/
theorem utf8ByteSize_writeOptional (address : Option Address) :
    (String.ofList (writeOptional address)).utf8ByteSize = (writeOptional address).length := by
  cases address with
  | none => rfl
  | some address =>
      exact utf8ByteSize_ofList_of_single fun c member =>
        ((extent_of_read? address.read?_write).2 c member).utf8Size_eq

/-- Where the size that is asked for is there, the text fits. -/
theorem format?_eq (room : Nat) (address : Option Address) :
    format? room address =
      if formatSize address ≤ room then some (writeOptional address) else none := by
  have fits := length_writeOptional_lt address
  rw [format?]
  by_cases asked : formatSize address ≤ room
  · rw [if_neg (Nat.not_lt_of_le asked), if_pos (by omega), if_pos asked]
  · rw [if_pos (Nat.lt_of_not_le asked), if_neg asked]

/-- An address is formatted if there is room for its text and a terminator. -/
theorem format?_eq_some_iff {room : Nat} {address : Option Address} {written : List Char} :
    format? room address = some written ↔
      formatSize address ≤ room ∧ writeOptional address = written := by
  rw [format?_eq]
  split
  case isTrue asked => rw [Option.some.injEq, and_iff_right asked]
  case isFalse refused => exact iff_of_false (by simp) fun both => refused both.1

end Address

namespace Query

variable {text : String} {address : Option Address}

/-- Reading an address is reading an optional one. -/
theorem readAddress_ok_iff :
    readAddress text = .ok address ↔ Address.readOptional? text.toList = some address := by
  rw [readAddress]
  cases Address.readOptional? text.toList with
  | none => simp only [reduceCtorEq]
  | some found => rw [Except.ok.injEq, Option.some.injEq]

/-- A text is read as an address if it denotes that. -/
theorem readAddress_some_iff {address : Address} :
    readAddress text = .ok (some address) ↔ Address.parse? text = some address := by
  rw [readAddress_ok_iff, Address.readOptional?, Address.parse?]
  split
  case isTrue wildcard =>
      have unread : Address.read? Address.wildcard = none := rfl
      rw [wildcard, unread]
      simp only [Option.some.injEq, reduceCtorEq]
  case isFalse => rw [Option.map_eq_some_iff]; simp

/-- Only the wildcard is read as no address. -/
theorem readAddress_none_iff : readAddress text = .ok none ↔ text = "*" := by
  have spelled : text.toList = Address.wildcard ↔ text = "*" := by
    rw [← String.toList_inj]
    rfl
  rw [readAddress_ok_iff, Address.readOptional?, ← spelled]
  split
  case isTrue wildcard => exact iff_of_true rfl wildcard
  case isFalse named => exact iff_of_false (by simp) named

/-- An address that is read is shown by its text and its family. -/
theorem showAddress_eq (read : readAddress text = .ok address) :
    showAddress text =
      .ok s!"{String.ofList (Address.writeOptional address)} ({familyText address})" := by
  have asked : Address.formatSize address ≤ Address.largestFormatSize := by
    cases address with
    | none => decide
    | some address =>
        rw [Address.formatSize]
        cases address.family <;> decide
  have formatted : Address.format? Address.largestFormatSize address =
      some (Address.writeOptional address) := Address.format?_eq_some_iff.mpr ⟨asked, rfl⟩
  simp only [showAddress, read, formatted, bind, Except.bind, pure, Except.pure]

/-- Whatever can be read can be shown. -/
theorem showAddress_ne_unwritable (text unwritten : String) :
    showAddress text ≠ .error (.unwritable unwritten) := by
  intro stopped
  cases read : readAddress text with
  | ok address =>
      rw [showAddress_eq read] at stopped
      cases stopped
  | error e =>
      have unread : e = .notAddress text := by
        rw [readAddress] at read
        split at read <;> cases read
        rfl
      simp only [showAddress, read, bind, Except.bind] at stopped
      cases unread.symm.trans (Except.error.inj stopped)

end Query

/-- **Formatting never runs out of room.** An address or the wildcard is formatted exactly if the
room has the size that is asked for, two, sixteen or forty-six characters, and then its whole text
is given, with room for a terminator. An IPv4 address takes at most fifteen bytes and an IPv6
address at most forty-five, so whatever can be read can be shown. -/
theorem Address.format?_fits :
    (∀ room address, (format? room address).isSome ↔ formatSize address ≤ room) ∧
    (∀ room address written, format? room address = some written →
      written = writeOptional address ∧ (String.ofList written).utf8ByteSize < room) ∧
    formatSize none = 2 ∧
    (∀ address : Address, address.family = .v4 →
      formatSize (some address) = 16 ∧ (toString address).utf8ByteSize ≤ 15) ∧
    (∀ address : Address, address.family = .v6 →
      formatSize (some address) = 46 ∧ (toString address).utf8ByteSize ≤ 45) ∧
    (∀ text address, parse? text = some address →
      Query.showAddress text = .ok s!"{address} ({address.family.name})") ∧
    ∀ text unwritten, Query.showAddress text ≠ .error (.unwritable unwritten) := by
  have size : ∀ address : Address, (toString address).utf8ByteSize = address.write.length :=
    fun address => utf8ByteSize_writeOptional (some address)
  refine ⟨?_, ?_, rfl, ?_, ?_, ?_, Query.showAddress_ne_unwritable⟩
  · intro room address
    rw [Option.isSome_iff_exists]
    constructor
    · rintro ⟨written, formatted⟩
      exact (format?_eq_some_iff.mp formatted).1
    · exact fun asked => ⟨_, format?_eq_some_iff.mpr ⟨asked, rfl⟩⟩
  · intro room address written formatted
    obtain ⟨asked, rfl⟩ := format?_eq_some_iff.mp formatted
    have fits := length_writeOptional_lt address
    exact ⟨rfl, by rw [utf8ByteSize_writeOptional]; omega⟩
  · intro address quad
    refine ⟨by rw [formatSize, quad], ?_⟩
    rw [size]
    exact length_write_le_of_isIPv4 (decide_eq_true quad)
  · intro address native
    refine ⟨by rw [formatSize, native], ?_⟩
    rw [size]
    exact address.length_write_le
  · intro text address read
    have written : toString (String.ofList (writeOptional (some address))) = toString address := rfl
    rw [Query.showAddress_eq (Query.readAddress_some_iff.mpr read), written]
    rfl

/-- The longest address is formatted in forty-six characters, and `::1` is refused forty-five. -/
theorem Address.format?_fits_longest :
    (format? 46 (some ⟨BitVec.allOnes 128⟩)).isSome ∧ ¬ (format? 45 (some loopback6)).isSome ∧
      (toString (ofIPv4 ⟨BitVec.allOnes 32⟩)).utf8ByteSize ≤ 15 ∧
      (toString (⟨BitVec.allOnes 128⟩ : Address)).utf8ByteSize ≤ 45 ∧
      Query.showAddress "::FFFF:10.0.0.1" =
        .ok s!"{ofIPv4 ⟨0x0a000001⟩} ({(ofIPv4 ⟨0x0a000001⟩).family.name})" := by
  obtain ⟨enough, -, -, quads, natives, shown, -⟩ := format?_fits
  refine ⟨(enough 46 _).mpr (by decide), fun short => ?_,
    (quads (ofIPv4 ⟨BitVec.allOnes 32⟩) (by decide)).2,
    (natives ⟨BitVec.allOnes 128⟩ (by decide)).2,
    shown "::FFFF:10.0.0.1" (ofIPv4 ⟨0x0a000001⟩) (by decide +kernel)⟩
  exact absurd ((enough 45 _).mp short) (by decide)

end SelfIsolation
