import SelfIsolation.Proofs.Address.Family
import SelfIsolation.Proofs.Address.Formatted

/-! # Matching of texts

Two addresses match if they are the same or if they are of one family and one of
them is unspecified (`SelfIsolation.Address.matchesOptional_some_iff`). What is
said of two texts depends on them only through what they denote, so any spelling of
an address may stand for any other one, also a mapped spelling for a dotted quad
(`SelfIsolation.Query.compareAddresses_denoted`).
-/

namespace SelfIsolation

/-! ## Unspecified addresses -/

namespace Address

variable {left right address : Address}

/-- Each family has one unspecified address. -/
theorem isUnspecified_iff : address.isUnspecified ↔ address = any4 ∨ address = any6 := by
  rw [isUnspecified]
  cases found : address.toIPv4? with
  | some native =>
      obtain rfl := toIPv4?_eq_some_iff.mp found
      have other : ofIPv4 native ≠ any6 := by
        intro same
        rw [same] at found
        cases found
      rw [decide_eq_true_iff, or_iff_left other, any4, ofIPv4_injective.eq_iff]
  | none =>
      have other : address ≠ any4 := by
        rintro rfl
        cases found
      rw [decide_eq_true_iff, or_iff_right other, eq_iff_bits, toIPv6, IPv6.unspecified,
        IPv6.mk.injEq]
      rfl

/-- Two addresses match if they are the same or if one stands for every address of the family of
the other. -/
theorem matchesOptional_some_iff :
    matchesOptional (some left) (some right) ↔
      left = right ∨ left.family = right.family ∧ (left.isUnspecified ∨ right.isUnspecified) := by
  rw [matchesOptional, ← Bool.or_eq_true]
  split
  case isTrue unspecified =>
      rw [decide_eq_true_iff]
      constructor
      · exact fun same => .inr ⟨same, unspecified⟩
      · rintro (rfl | ⟨same, -⟩)
        · rfl
        · exact same
  case isFalse specified =>
      rw [decide_eq_true_iff]
      exact ⟨.inl, fun holds => holds.resolve_right fun one => specified one.2⟩

/-- Neither side of a match goes first. -/
theorem matchesOptional_comm (left right : Option Address) :
    matchesOptional left right = matchesOptional right left := by
  cases left with
  | none => cases right <;> rfl
  | some left =>
      cases right with
      | none => rfl
      | some right =>
          rw [Bool.eq_iff_iff, matchesOptional_some_iff, matchesOptional_some_iff, eq_comm,
            eq_comm (a := left.family), or_comm (a := left.isUnspecified = true)]

/-- An unspecified address matches the addresses of its family. -/
theorem matchesOptional_of_isUnspecified (unspecified : left.isUnspecified) :
    matchesOptional (some left) (some right) = decide (right.family = left.family) := by
  rw [matchesOptional, unspecified, Bool.true_or, if_pos rfl]
  exact decide_eq_decide.mpr eq_comm

end Address

/-! ## Mapped spellings -/

namespace IPv4

/-- An IPv4 text has a dot. -/
theorem dot_mem_of_read? {text : List Char} {quad : IPv4} (read : read? text = some quad) :
    '.' ∈ text := by
  by_contra dotless
  obtain ⟨octets, read, -⟩ := Option.map_eq_some_iff.mp read
  simp only [readOctets?, List.splitOn_eq_singleton dotless] at read
  cases read

/-- An IPv4 text has no colon. -/
theorem colon_notMem_of_read? {text : List Char} {quad : IPv4} (read : read? text = some quad) :
    ':' ∉ text := by
  intro colon
  rw [read?_eq_none colon] at read
  cases read

end IPv4

namespace IPv6

/-- A dotted quad after the mapping stands for the mapped form of its address. -/
theorem read?_mapped {text : List Char} {quad : IPv4} (read : IPv4.read? text = some quad) :
    read? ("::ffff:".toList ++ text) = some quad.mapped := by
  have gap : splitGap? ("::ffff:".toList ++ text) = some ([], "ffff:".toList ++ text) := rfl
  have fields : ("ffff:".toList ++ text).splitOn ':' = ["ffff".toList, text] := by
    have joined : "ffff:".toList ++ text = [':'].intercalate ["ffff".toList, text] := by
      rw [List.intercalate_cons_cons, List.intercalate_singleton]
      rfl
    rw [joined]
    refine List.splitOn_intercalate ':' ?_ (List.cons_ne_nil _ _)
    intro field member
    rcases List.mem_cons.mp member with rfl | member
    · decide
    · rw [List.mem_singleton.mp member]
      exact IPv4.colon_notMem_of_read? read
  have front : readSide? false [] = some [] := rfl
  have back : readSide? true ("ffff:".toList ++ text) =
      some (0xffff :: Word.split 16 2 quad.bits.toNat) := by
    have group : readGroup? "ffff".toList = some 0xffff := by decide
    have nonempty : ("ffff:".toList ++ text).isEmpty = false := rfl
    rw [readSide?, nonempty, if_neg Bool.false_ne_true, fields]
    simp only [readFields?, group, readGroup?_eq_none (IPv4.dot_mem_of_read? read), ↓reduceIte,
      readDotted?, read, Option.map_some, Option.pure_def, Option.bind_eq_bind, Option.bind_some]
  have count : (Word.split 16 2 quad.bits.toNat).length = 2 := Word.length_split _ _ _
  have groups : readGroups? ("::ffff:".toList ++ text) =
      some (List.replicate 5 0 ++ 0xffff :: Word.split 16 2 quad.bits.toNat) := by
    simp only [readGroups?, gap, front, back, Option.bind_eq_bind, Option.bind_some, count,
      List.length_nil, List.length_cons, List.nil_append, Nat.zero_add, Nat.reduceAdd,
      Nat.reduceLeDiff, ↓reduceIte, Nat.reduceSub]
  have value : Word.join (List.replicate 5 0 ++ 0xffff :: Word.split 16 2 quad.bits.toNat) =
      quad.mapped.bits.toNat := by
    rw [Word.join_replicate_append, Word.join_cons, Word.join_split, count,
      Nat.mod_eq_of_lt quad.bits.isLt]
    exact (Address.toNat_ofIPv4 quad).symm
  rw [read?, groups, Option.map_some, ofGroups, value, BitVec.ofNat_toNat, BitVec.setWidth_eq]

end IPv6

/-- A dotted quad after the mapping denotes the IPv4 address. -/
theorem Address.read?_mapped {text : List Char} {quad : IPv4} (read : IPv4.read? text = some quad) :
    read? ("::ffff:".toList ++ text) = some (ofIPv4 quad) := by
  rw [Address.read?, IPv4.read?_eq_none (List.mem_append_left _ (by decide))]
  dsimp only
  rw [IPv6.read?_mapped read]
  rfl

/-! ## Texts -/

namespace Query

variable {left right other : String}

/-- Two texts are compared if both are read, and the answer is that of what they denote. -/
theorem compareAddresses_eq_ok_iff {answer : Bool} :
    compareAddresses left right = .ok answer ↔
      ∃ first second, readAddress left = .ok first ∧ readAddress right = .ok second ∧
        Address.matchesOptional first second = answer := by
  rw [compareAddresses]
  cases readAddress left with
  | error e => simp only [bind, Except.bind, reduceCtorEq, false_and, exists_false]
  | ok first =>
      cases readAddress right with
      | error e => simp only [bind, Except.bind, reduceCtorEq, false_and, and_false, exists_false]
      | ok second =>
          constructor
          · exact fun said => ⟨first, second, rfl, rfl, Except.ok.inj said⟩
          · rintro ⟨_, _, same, same', said⟩
            cases same
            cases same'
            exact congrArg Except.ok said

/-- What a text denotes is all that the answer depends on. -/
theorem compareAddresses_congr {left' right' : String}
    (sameLeft : readAddress left = readAddress left')
    (sameRight : readAddress right = readAddress right') :
    compareAddresses left right = compareAddresses left' right' := by
  rw [compareAddresses, compareAddresses, sameLeft, sameRight]

/-- An optional address is read back from its text. -/
theorem readAddress_writeOptional (address : Option Address) :
    readAddress (String.ofList (Address.writeOptional address)) = .ok address := by
  rw [readAddress_ok_iff, String.toList_ofList, Address.readOptional?_writeOptional]

/-- A dotted quad is read alike with and without the mapping before it. -/
theorem readAddress_mapped {quad : IPv4} (read : IPv4.read? other.toList = some quad) :
    readAddress ("::ffff:" ++ other) = readAddress other := by
  have spelled : Address.parse? ("::ffff:" ++ other) = some (.ofIPv4 quad) := by
    rw [Address.parse?, String.toList_append, Address.read?_mapped read]
  have plain : Address.parse? other = some (.ofIPv4 quad) := by
    rw [Address.parse?, Address.read?, read]
  rw [readAddress_some_iff.mpr spelled, readAddress_some_iff.mpr plain]

/-- A text is read if it is the wildcard or denotes an address. -/
theorem exists_readAddress_iff :
    (∃ address, readAddress left = .ok address) ↔
      left = "*" ∨ ∃ address, Address.parse? left = some address := by
  constructor
  · rintro ⟨_ | address, read⟩
    · exact .inl (readAddress_none_iff.mp read)
    · exact .inr ⟨address, readAddress_some_iff.mp read⟩
  · rintro (wildcard | ⟨address, read⟩)
    · exact ⟨none, readAddress_none_iff.mpr wildcard⟩
    · exact ⟨some address, readAddress_some_iff.mpr read⟩

/-- Two texts match if one is the wildcard or they denote addresses that match. -/
theorem compareAddresses_true_iff {answer : Bool}
    (said : compareAddresses left right = .ok answer) :
    answer = true ↔ left = "*" ∨ right = "*" ∨ ∃ first second,
      Address.parse? left = some first ∧ Address.parse? right = some second ∧
        (first = second ∨ first.family = second.family ∧
          (first.isUnspecified ∨ second.isUnspecified)) := by
  obtain ⟨first, second, readLeft, readRight, rfl⟩ := compareAddresses_eq_ok_iff.mp said
  cases first with
  | none => exact iff_of_true rfl (.inl (readAddress_none_iff.mp readLeft))
  | some first =>
      cases second with
      | none =>
          have matching : Address.matchesOptional (some first) none = true := rfl
          exact iff_of_true matching (.inr (.inl (readAddress_none_iff.mp readRight)))
      | some second =>
          have named : ∀ {text address}, readAddress text = .ok (some address) → text ≠ "*" := by
            intro text address read wildcard
            cases read.symm.trans (readAddress_none_iff.mpr wildcard)
          have foundLeft := readAddress_some_iff.mp readLeft
          have foundRight := readAddress_some_iff.mp readRight
          rw [Address.matchesOptional_some_iff, or_iff_right (named readLeft),
            or_iff_right (named readRight)]
          constructor
          · exact fun holds => ⟨first, second, foundLeft, foundRight, holds⟩
          · rintro ⟨_, _, same, same', holds⟩
            cases foundLeft.symm.trans same
            cases foundRight.symm.trans same'
            exact holds

/-- Neither text of a comparison goes first. -/
theorem compareAddresses_comm {answer : Bool} :
    compareAddresses left right = .ok answer ↔ compareAddresses right left = .ok answer := by
  have turn : ∀ {left right}, compareAddresses left right = .ok answer →
      compareAddresses right left = .ok answer := by
    intro left right said
    obtain ⟨first, second, readLeft, readRight, rfl⟩ := compareAddresses_eq_ok_iff.mp said
    exact compareAddresses_eq_ok_iff.mpr
      ⟨second, first, readRight, readLeft, Address.matchesOptional_comm second first⟩
  exact ⟨turn, turn⟩

/-- The text of an unspecified address matches the addresses of its family. -/
theorem compareAddresses_unspecified {first second : Address}
    (found : Address.parse? left = some first) (unspecified : first.isUnspecified)
    (other : Address.parse? right = some second) :
    compareAddresses left right = .ok (decide (second.family = first.family)) :=
  compareAddresses_eq_ok_iff.mpr ⟨some first, some second, readAddress_some_iff.mpr found,
    readAddress_some_iff.mpr other, Address.matchesOptional_of_isUnspecified unspecified⟩

/-- **Texts match by what they denote.** Two texts are compared exactly if each is the wildcard or
an address, and they match if one is the wildcard, if they denote the same address, or if they
denote addresses of one family of which one is unspecified, each family having one such address. The
order of the texts makes no difference, nor does it make one to write a text anew, or to write a
dotted quad as a mapped address. So the mapped form of 0.0.0.0 matches every IPv4 address and no
other, as `::` matches the IPv6 ones. -/
theorem compareAddresses_denoted :
    (∀ left right, (∃ answer, compareAddresses left right = .ok answer) ↔
      (left = "*" ∨ ∃ address, Address.parse? left = some address) ∧
        (right = "*" ∨ ∃ address, Address.parse? right = some address)) ∧
    (∀ left right answer, compareAddresses left right = .ok answer →
      (answer = true ↔ left = "*" ∨ right = "*" ∨ ∃ first second,
        Address.parse? left = some first ∧ Address.parse? right = some second ∧
          (first = second ∨ first.family = second.family ∧
            (first.isUnspecified ∨ second.isUnspecified)))) ∧
    (∀ address : Address, address.isUnspecified ↔ address = .any4 ∨ address = .any6) ∧
    (∀ left right answer,
      compareAddresses left right = .ok answer ↔ compareAddresses right left = .ok answer) ∧
    (∀ left right address written, readAddress left = .ok address →
      written = Address.writeOptional address ∨
        (∃ room, Address.format? room address = some written) →
      compareAddresses (String.ofList written) right = compareAddresses left right ∧
        compareAddresses right (String.ofList written) = compareAddresses right left) ∧
    (∀ quad right, (IPv4.read? quad.toList).isSome →
      compareAddresses ("::ffff:" ++ quad) right = compareAddresses quad right ∧
        compareAddresses right ("::ffff:" ++ quad) = compareAddresses right quad) ∧
    ∀ right address, Address.parse? right = some address →
      compareAddresses "::ffff:0.0.0.0" right = .ok address.isIPv4 ∧
        compareAddresses "::" right = .ok address.isIPv6 := by
  refine ⟨?_, fun _ _ _ => compareAddresses_true_iff, fun _ => Address.isUnspecified_iff,
    fun _ _ _ => compareAddresses_comm, ?_, ?_, ?_⟩
  · intro left right
    rw [← exists_readAddress_iff, ← exists_readAddress_iff]
    constructor
    · rintro ⟨answer, said⟩
      obtain ⟨first, second, readLeft, readRight, -⟩ := compareAddresses_eq_ok_iff.mp said
      exact ⟨⟨first, readLeft⟩, second, readRight⟩
    · rintro ⟨⟨first, readLeft⟩, second, readRight⟩
      exact ⟨_, compareAddresses_eq_ok_iff.mpr ⟨first, second, readLeft, readRight, rfl⟩⟩
  · intro left right address written read canonical
    have text : written = Address.writeOptional address := by
      rcases canonical with rfl | ⟨room, formatted⟩
      · rfl
      · exact (Address.format?_eq_some_iff.mp formatted).2.symm
    have same : readAddress (String.ofList written) = readAddress left := by
      rw [text, readAddress_writeOptional, read]
    exact ⟨compareAddresses_congr same rfl, compareAddresses_congr rfl same⟩
  · intro quad right dotted
    obtain ⟨native, read⟩ := Option.isSome_iff_exists.mp dotted
    have same := readAddress_mapped read
    exact ⟨compareAddresses_congr same rfl, compareAddresses_congr rfl same⟩
  · intro right address found
    have mapped : Address.parse? "::ffff:0.0.0.0" = some .any4 := by decide +kernel
    have native : Address.parse? "::" = some .any6 := by decide +kernel
    exact ⟨compareAddresses_unspecified mapped (by decide) found,
      compareAddresses_unspecified native (by decide) found⟩

/-- The mapped form of 0.0.0.0 matches 10.0.0.1, which its other spelling `::ffff:a00:1` does not
change, and `::` does not match it. -/
theorem compareAddresses_denoted_mapped :
    compareAddresses "::ffff:0.0.0.0" "10.0.0.1" = .ok true ∧
      compareAddresses "::ffff:0.0.0.0" "::FFFF:A00:1" = .ok true ∧
      compareAddresses "::" "10.0.0.1" = .ok false ∧
      compareAddresses "::ffff:10.0.0.1" "10.0.0.1" = compareAddresses "10.0.0.1" "10.0.0.1" := by
  obtain ⟨-, -, -, -, -, spelled, wild⟩ := compareAddresses_denoted
  have dotted := wild "10.0.0.1" (.ofIPv4 ⟨0x0a000001⟩) (by decide +kernel)
  have grouped := wild "::FFFF:A00:1" (.ofIPv4 ⟨0x0a000001⟩) (by decide +kernel)
  exact ⟨dotted.1, grouped.1, dotted.2, (spelled "10.0.0.1" "10.0.0.1" (by decide +kernel)).1⟩

end Query

end SelfIsolation
