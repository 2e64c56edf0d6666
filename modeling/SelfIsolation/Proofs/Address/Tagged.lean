import SelfIsolation.Address.Tagged
import SelfIsolation.Proofs.Address.Family

/-! # The tag of an address

However a tagged address is made, its tag is the family that its octets tell
(`SelfIsolation.TaggedAddress.Built.canonical`): it is the tagged form of an address
without a tag (`SelfIsolation.TaggedAddress.Built.exists_tagged`). So the order,
which leaves the tag out, and the equality, which does not, agree on the addresses
that can be made.
-/

namespace SelfIsolation

namespace Word

variable {width : Nat}

/-- What words denote that are put before others counts for all that these can denote. -/
theorem join_append (front back : List (BitVec width)) :
    join (front ++ back) = join front * 2 ^ (width * back.length) + join back := by
  rw [join, List.foldl_append, foldl_eq_add_join]
  rfl

/-- Splitting the number that words denote gives the words. -/
theorem split_join (words : List (BitVec width)) :
    split width words.length (join words) = words := by
  induction words using List.reverseRecOn with
  | nil => rfl
  | append_singleton front last ih =>
      have whole : join (front ++ [last]) = join front * 2 ^ width + last.toNat := by
        rw [join_append, List.length_singleton, Nat.mul_one, join_cons, List.length_nil,
          Nat.mul_zero, Nat.pow_zero, Nat.mul_one]
        rfl
      have rest : join (front ++ [last]) >>> width = join front := by
        rw [whole, Nat.shiftRight_eq_div_pow, Nat.mul_comm, Nat.mul_add_div (Nat.two_pow_pos _),
          Nat.div_eq_of_lt last.isLt, Nat.add_zero]
      have word : BitVec.ofNat width (join (front ++ [last])) = last := by
        apply BitVec.eq_of_toNat_eq
        rw [BitVec.toNat_ofNat, whole, Nat.mul_comm, Nat.mul_add_mod, Nat.mod_eq_of_lt last.isLt]
      rw [List.length_append, List.length_singleton, split, rest, word, ih]

/-- As many words that denote one number are equal. -/
theorem eq_of_join_eq {left right : List (BitVec width)} (level : left.length = right.length)
    (same : join left = join right) : left = right := by
  rw [← split_join left, same, level, split_join]

end Word

namespace IPv6

theorem ofOctets_octets (address : IPv6) : ofOctets address.octets = address := by
  rw [ofOctets, join_octets, BitVec.ofNat_toNat, BitVec.setWidth_eq]

/-- Sixteen octets are found again in their IPv6 address. -/
theorem octets_ofOctets {octets : List (BitVec 8)} (whole : octets.length = 16) :
    (ofOctets octets).octets = octets := by
  have small : Word.join octets < 2 ^ 128 := by
    have bound := Word.join_lt octets
    rwa [whole] at bound
  rw [IPv6.octets, ofOctets, BitVec.toNat_ofNat, Nat.mod_eq_of_lt small]
  have split := Word.split_join octets
  rwa [whole] at split

end IPv6

namespace Address

variable {address : Address}

/-! ## The octets that tell the family -/

/-- The first twelve octets are the bits before the last thirty-two. -/
theorem join_take_octets (address : Address) :
    Word.join (address.octets.take 12) = address.bits.toNat / 2 ^ 32 := by
  have count : (address.octets.drop 12).length = 4 := by
    rw [List.length_drop, length_octets]
  have small := Word.join_lt (address.octets.drop 12)
  have whole := Word.join_append (address.octets.take 12) (address.octets.drop 12)
  rw [List.take_append_drop, join_octets] at whole
  rw [count] at small whole
  omega

/-- The mapping is the first twelve octets of an IPv4 address. -/
theorem take_octets_eq_mapping_iff :
    address.octets.take 12 = TaggedAddress.mapping ↔ address.family = .v4 := by
  have level : (address.octets.take 12).length = TaggedAddress.mapping.length := by
    rw [List.length_take, length_octets]
    rfl
  have front : address.octets.take 12 = TaggedAddress.mapping ↔
      address.bits.toNat / 2 ^ 32 = 0xffff := by
    rw [← address.join_take_octets]
    exact ⟨fun same => congrArg Word.join same, fun same => Word.eq_of_join_eq level same⟩
  rw [front, family_eq_v4_iff, ← isMapped_iff_agree, IPv6.isMapped, beq_iff_eq,
    ← BitVec.toNat_inj, BitVec.toNat_ushiftRight, Nat.shiftRight_eq_div_pow]
  rfl

theorem octets_ofIPv6 (native : IPv6) : (ofIPv6 native).octets = native.octets := by
  cases native
  rfl

/-- The octets of a mapped address are the mapping and those of the IPv4 address. -/
theorem octets_ofIPv4 (quad : IPv4) :
    (ofIPv4 quad).octets = TaggedAddress.mapping ++ quad.octets := by
  have count : quad.octets.length = 4 := Word.length_split 8 4 _
  refine Word.eq_of_join_eq ?_ ?_
  · rw [length_octets, List.length_append, count]
    rfl
  · rw [join_octets, toNat_ofIPv4, Word.join_append, count, quad.join_octets]
    rfl

/-- An address is told to be an IPv4 address if it is the mapped form of that. -/
theorem equalsIPv4_iff {native : IPv4} : address.equalsIPv4 native ↔ address = ofIPv4 native := by
  rw [equalsIPv4, decide_eq_true_iff, toIPv4?_eq_some_iff]

/-- An address is told to be an IPv6 address if it is that and not mapped. -/
theorem equalsIPv6_iff {native : IPv6} :
    address.equalsIPv6 native ↔ address = ofIPv6 native ∧ ¬ native.isMapped := by
  have same : address.toIPv6 = native ↔ address = ofIPv6 native := by
    cases address
    cases native
    rw [toIPv6, ofIPv6, IPv6.mk.injEq, mk.injEq]
  rw [equalsIPv6, Bool.and_eq_true, decide_eq_true_iff, same, and_comm]
  refine and_congr_right ?_
  rintro rfl
  rw [isIPv6, decide_eq_true_iff, family_eq_v6_iff, family_eq_v4_iff, ← isMapped_iff_agree]
  rfl

end Address

namespace TaggedAddress

/-! ## Tagged addresses are made as the others -/

/-- The tag and the octets determine a tagged address. -/
theorem eq_of_parts {left right : TaggedAddress} (family : left.family = right.family)
    (octets : left.octets = right.octets) : left = right := by
  cases left
  cases right
  cases family
  cases octets
  rfl

/-- A tag that tells the octets is the family of the address with these octets. -/
theorem eq_tagged {tagged : TaggedAddress} {address : Address}
    (same : tagged.octets = address.octets)
    (told : tagged.family = .v4 ↔ tagged.octets.take 12 = mapping) :
    tagged = address.tagged := by
  refine eq_of_parts ?_ same
  rw [same, Address.take_octets_eq_mapping_iff] at told
  cases quad : address.family with
  | v4 => exact (told.mpr quad).trans quad.symm
  | v6 =>
      cases tag : tagged.family with
      | v4 => cases quad.symm.trans (told.mp tag)
      | v6 => exact quad.symm

/-- Octets make an IPv4 address if they start with the mapping. -/
theorem family_ofOctets_eq_v4_iff {octets : List (BitVec 8)} (whole : octets.length = 16) :
    (ofOctets octets whole).family = .v4 ↔ octets.take 12 = mapping := by
  unfold ofOctets
  split
  case isTrue mapped => exact iff_of_true rfl mapped
  case isFalse other => exact iff_of_false nofun other

/-- The tagged address of octets is the address of these octets, tagged. -/
theorem ofOctets_eq (octets : List (BitVec 8)) (whole : octets.length = 16) :
    ofOctets octets whole = (Address.ofOctets octets).tagged :=
  eq_tagged (IPv6.octets_ofOctets whole).symm (family_ofOctets_eq_v4_iff whole)

/-- The tagged form of an IPv4 address is its mapped form, tagged. -/
theorem ofIPv4_eq (native : IPv4) : ofIPv4 native = (Address.ofIPv4 native).tagged := by
  have family : (ofIPv4 native).family = (Address.ofIPv4 native).tagged.family :=
    (of_decide_eq_true (Address.isIPv4_ofIPv4 native)).symm
  exact eq_of_parts family (Address.octets_ofIPv4 native).symm

/-- The tagged form of an IPv6 address is that address, tagged. -/
theorem ofIPv6_eq (native : IPv6) : ofIPv6 native = (Address.ofIPv6 native).tagged :=
  eq_tagged (Address.octets_ofIPv6 native).symm (family_ofOctets_eq_v4_iff _)

theorem loopback4_eq : loopback4 = Address.loopback4.tagged := by decide

theorem any4_eq : any4 = Address.any4.tagged := by decide

theorem loopback6_eq : loopback6 = Address.loopback6.tagged := by decide

theorem any6_eq : any6 = Address.any6.tagged := by decide

/-- The tagged form of an address of either family is that address, tagged. -/
theorem ofIP_eq (address : IPAddress) : ofIP address = (Address.ofIP address).tagged := by
  cases address with
  | v4 native => exact ofIPv4_eq native
  | v6 native => exact ofIPv6_eq native

theorem toIPv6_tagged (address : Address) : address.tagged.toIPv6 = address.toIPv6 :=
  IPv6.ofOctets_octets address.toIPv6

/-- Masking an address with its tag is masking it without, and tagging the result. -/
theorem mask_tagged (address : Address) (length : PrefixLength) :
    address.tagged.mask length = (address.mask length).tagged := by
  rw [mask, toIPv6_tagged, ofIPv6_eq]
  rfl

/-- A text denotes the tagged form of the address that it denotes without tags. -/
theorem read?_eq (text : List Char) : read? text = (Address.read? text).map Address.tagged := by
  rw [read?, Address.read?]
  cases IPv4.read? text with
  | some native => exact congrArg some (ofIPv4_eq native)
  | none =>
      dsimp only
      rw [Option.map_map]
      exact congrArg (fun make => (IPv6.read? text).map make) (funext ofIPv6_eq)

/-- A block text is read alike with and without tags. -/
theorem readParts?_eq (text : List Char) :
    readParts? text =
      (Block.readParts? text).map fun (address, length) => (address.tagged, length) := by
  have tag : ∀ address : Address, address.tagged.family = .v4 ↔ address.isIPv4 = true :=
    fun _ => decide_eq_true_iff.symm
  simp only [readParts?, Block.readParts?, ofIPv6_eq, ofIPv4_eq, tag]
  cases Block.splitSlash? text with
  | none => rfl
  | some parts =>
      simp only [Option.bind_eq_bind, Option.bind_some]
      split
      case isTrue => rfl
      case isFalse =>
          cases Numeral.readDecimal? parts.2 with
          | none => rfl
          | some n =>
              rw [Option.bind_some, Option.bind_some]
              cases IPv6.read? parts.1 with
              | some native =>
                  dsimp only
                  split
                  case isTrue => rfl
                  case isFalse => cases PrefixLength.ofNat? n <;> rfl
              | none =>
                  cases IPv4.read? parts.1 with
                  | none => rfl
                  | some native =>
                      rw [Option.bind_some, Option.bind_some]
                      cases PrefixLength.ofIPv4? n <;> rfl

/-! ## Tagged addresses say the same -/

/-- The tag tells the IPv4 form that the octets tell. -/
theorem toIPv4?_tagged (address : Address) : address.tagged.toIPv4? = address.toIPv4? := by
  cases quad : address.toIPv4? with
  | some native =>
      obtain rfl := Address.toIPv4?_eq_some_iff.mp quad
      have tail : (ofIPv4 native).octets.drop 12 = native.octets := List.drop_left' rfl
      rw [← ofIPv4_eq]
      change some (IPv4.ofOctets ((ofIPv4 native).octets.drop 12)) = some native
      rw [tail, IPv4.ofOctets_octets]
  | none =>
      have other : address.tagged.family = .v6 := by
        rw [Address.tagged, Address.family]
        split
        case isTrue mapped => cases (if_pos mapped).symm.trans quad
        case isFalse => rfl
      rw [toIPv4?, other]

theorem octets_tagged (address : Address) : address.tagged.octets = address.octets := rfl

/-- Tagging loses nothing of an address. -/
theorem tagged_injective : Function.Injective Address.tagged := by
  intro left right same
  have told : left.tagged.octets = right.tagged.octets := by rw [same]
  rw [octets_tagged, octets_tagged] at told
  exact Address.octets_injective told

theorem toNat_tagged (address : Address) : address.tagged.toNat = address.bits.toNat :=
  address.join_octets

theorem compare_tagged (left right : Address) :
    compare left.tagged right.tagged = compare left right :=
  rfl

/-- A tagged address is told to be the IPv4 addresses that it is told to be without its tag. -/
theorem equalsIPv4_tagged (address : Address) (native : IPv4) :
    address.tagged.equalsIPv4 native = address.equalsIPv4 native := by
  rw [equalsIPv4, toIPv4?_tagged]
  rfl

/-- A tagged address is told to be the IPv6 addresses that it is told to be without its tag. -/
theorem equalsIPv6_tagged (address : Address) (native : IPv6) :
    address.tagged.equalsIPv6 native = address.equalsIPv6 native := by
  rw [equalsIPv6, toIPv6_tagged]
  rfl

end TaggedAddress

namespace TaggedBlock

/-- The same addresses and lengths make a block with and without tags. -/
theorem ofParts?_tagged (address : Address) (length : PrefixLength) :
    ofParts? address.tagged length = (Block.ofParts? address length).map Block.tagged := by
  have cut : (address.tagged.family = .v4 ∧ length.toNat < PrefixLength.mappingWidth) ↔
      ¬ (address.isIPv4 → PrefixLength.mappingWidth ≤ length.toNat) := by
    rw [Classical.not_imp, Nat.not_le, Address.isIPv4, decide_eq_true_iff]
    rfl
  rw [ofParts?, Block.ofParts?]
  split
  case isTrue refused => rw [dif_neg (cut.mp refused)]; rfl
  case isFalse allowed => rw [dif_pos (not_not.mp (mt cut.mpr allowed))]; rfl

/-- A text denotes the tagged form of the block that it denotes without tags. -/
theorem read?_eq (text : List Char) : read? text = (Block.read? text).map Block.tagged := by
  rw [read?, Block.read?, TaggedAddress.readParts?_eq]
  cases accepted : Block.readParts? text with
  | none => rfl
  | some parts =>
      obtain ⟨address, length⟩ := parts
      have covered := Block.covers_mapping_of_readParts? accepted
      have made : Block.ofParts? address length = some ⟨address, length, covered⟩ :=
        dif_pos covered
      dsimp only [Option.bind_eq_bind, Option.bind_some]
      rw [made]
      rfl

/-- A block that is made of a tagged address and a length is a tagged block. -/
theorem exists_tagged_of_ofParts? {address : Address} {length : PrefixLength}
    {block : TaggedBlock} (accepted : ofParts? address.tagged length = some block) :
    ∃ plain : Block, block = plain.tagged := by
  rw [ofParts?_tagged] at accepted
  obtain ⟨plain, -, same⟩ := Option.map_eq_some_iff.mp accepted
  exact ⟨plain, same.symm⟩

/-- A block that is read is a tagged block. -/
theorem exists_tagged_of_read? {text : List Char} {block : TaggedBlock}
    (accepted : read? text = some block) : ∃ plain : Block, block = plain.tagged := by
  rw [read?_eq] at accepted
  obtain ⟨plain, -, same⟩ := Option.map_eq_some_iff.mp accepted
  exact ⟨plain, same.symm⟩

/-- The network of a tagged block is that of the block, tagged. -/
theorem network_tagged (block : Block) : block.tagged.network = block.network.tagged :=
  TaggedAddress.mask_tagged block.address block.length

/-- A tagged block holds the tagged addresses that the block holds without the tags. -/
theorem contains_tagged (block : Block) (address : Address) :
    block.tagged.contains address.tagged = block.contains address := by
  have masked : address.tagged.mask block.tagged.length = (address.mask block.length).tagged :=
    TaggedAddress.mask_tagged address block.length
  rw [contains, masked, network_tagged]
  exact decide_eq_decide.mpr TaggedAddress.tagged_injective.eq_iff

end TaggedBlock

namespace TaggedAddress

/-! ## What can be made -/

/-- The tagged addresses that can be made. -/
inductive Built : TaggedAddress → Prop where
  | loopback4 : Built .loopback4
  | any4 : Built .any4
  | loopback6 : Built .loopback6
  | any6 : Built .any6
  | ofOctets (octets : List (BitVec 8)) (whole : octets.length = 16) :
      Built (.ofOctets octets whole)
  | ofIPv4 (native : IPv4) : Built (.ofIPv4 native)
  | ofIPv6 (native : IPv6) : Built (.ofIPv6 native)
  | ofIP (address : IPAddress) : Built (.ofIP address)
  | ofEndpoint (endpoint : Endpoint) : Built (TaggedAddress.ofEndpoint endpoint).1
  | read {text : List Char} {address : TaggedAddress} (accepted : read? text = some address) :
      Built address
  | readParts {text : List Char} {address : TaggedAddress} {length : PrefixLength}
      (accepted : readParts? text = some (address, length)) : Built address
  | mask {address : TaggedAddress} (made : Built address) (length : PrefixLength) :
      Built (address.mask length)
  | blockAddress {address : TaggedAddress} {length : PrefixLength} {block : TaggedBlock}
      (made : Built address) (accepted : TaggedBlock.ofParts? address length = some block) :
      Built block.address
  | blockNetwork {address : TaggedAddress} {length : PrefixLength} {block : TaggedBlock}
      (made : Built address) (accepted : TaggedBlock.ofParts? address length = some block) :
      Built block.network
  | readBlockAddress {text : List Char} {block : TaggedBlock}
      (accepted : TaggedBlock.read? text = some block) : Built block.address
  | readBlockNetwork {text : List Char} {block : TaggedBlock}
      (accepted : TaggedBlock.read? text = some block) : Built block.network

/-- Every address that can be made is one without a tag, tagged with its family. -/
theorem Built.exists_tagged {tagged : TaggedAddress} (made : tagged.Built) :
    ∃ address : Address, tagged = address.tagged := by
  induction made with
  | loopback4 => exact ⟨_, loopback4_eq⟩
  | any4 => exact ⟨_, any4_eq⟩
  | loopback6 => exact ⟨_, loopback6_eq⟩
  | any6 => exact ⟨_, any6_eq⟩
  | ofOctets octets whole => exact ⟨_, ofOctets_eq octets whole⟩
  | ofIPv4 native => exact ⟨_, ofIPv4_eq native⟩
  | ofIPv6 native => exact ⟨_, ofIPv6_eq native⟩
  | ofIP address => exact ⟨_, ofIP_eq address⟩
  | ofEndpoint endpoint => exact ⟨_, ofIP_eq endpoint.address⟩
  | read accepted =>
      rw [read?_eq] at accepted
      obtain ⟨address, -, same⟩ := Option.map_eq_some_iff.mp accepted
      exact ⟨address, same.symm⟩
  | readParts accepted =>
      rw [readParts?_eq] at accepted
      obtain ⟨parts, -, same⟩ := Option.map_eq_some_iff.mp accepted
      exact ⟨parts.1, (congrArg Prod.fst same).symm⟩
  | mask _ length ih =>
      obtain ⟨address, rfl⟩ := ih
      exact ⟨_, mask_tagged address length⟩
  | blockAddress _ accepted ih =>
      obtain ⟨address, rfl⟩ := ih
      obtain ⟨block, rfl⟩ := TaggedBlock.exists_tagged_of_ofParts? accepted
      exact ⟨block.address, rfl⟩
  | blockNetwork _ accepted ih =>
      obtain ⟨address, rfl⟩ := ih
      obtain ⟨block, rfl⟩ := TaggedBlock.exists_tagged_of_ofParts? accepted
      exact ⟨_, TaggedBlock.network_tagged block⟩
  | readBlockAddress accepted =>
      obtain ⟨block, rfl⟩ := TaggedBlock.exists_tagged_of_read? accepted
      exact ⟨block.address, rfl⟩
  | readBlockNetwork accepted =>
      obtain ⟨block, rfl⟩ := TaggedBlock.exists_tagged_of_read? accepted
      exact ⟨_, TaggedBlock.network_tagged block⟩

end TaggedAddress

namespace TaggedBlock

/-- The tagged blocks that can be made. -/
inductive Built : TaggedBlock → Prop where
  | ofParts {address : TaggedAddress} {length : PrefixLength} {block : TaggedBlock}
      (made : address.Built) (accepted : ofParts? address length = some block) : Built block
  | read {text : List Char} {block : TaggedBlock} (accepted : read? text = some block) :
      Built block

/-- **Tagged blocks are blocks.** A block that can be made is a block without a tag, tagged with
the family of its address. Its network is the tagged network of that one, and it holds the addresses
that can be made and that this one holds without their tags. -/
theorem Built.exists_tagged {block : TaggedBlock} (made : block.Built) :
    ∃ plain : Block, block = plain.tagged ∧ block.network = plain.network.tagged ∧
      ∀ address : TaggedAddress, address.Built → ∃ bare : Address, address = bare.tagged ∧
        block.contains address = plain.contains bare := by
  have tagged : ∃ plain : Block, block = plain.tagged := by
    cases made with
    | ofParts made accepted =>
        obtain ⟨address, rfl⟩ := made.exists_tagged
        exact exists_tagged_of_ofParts? accepted
    | read accepted => exact exists_tagged_of_read? accepted
  obtain ⟨plain, rfl⟩ := tagged
  refine ⟨plain, rfl, network_tagged plain, fun address built => ?_⟩
  obtain ⟨bare, rfl⟩ := built.exists_tagged
  exact ⟨bare, rfl, contains_tagged plain bare⟩

end TaggedBlock

namespace TaggedAddress

namespace Built

variable {left middle right : TaggedAddress}

/-- **The tag is a function of the octets.** Of the addresses that can be made, those with the IPv4
tag are those whose octets start with the mapping. So two of them are equal exactly if their octets
are, and exactly if the order has them equal; the order, which leaves the tag out, is total and that
of the octets as one number. An address is told to be a given IPv4 address exactly if it equals the
one made of it, and a given IPv6 address exactly if it equals the one made of that and that is not
mapped. So they are addresses without a tag that were tagged with their family, and compare as
these do. -/
theorem canonical (first : Built left) (second : Built middle) (third : Built right) :
    (left.family = .v4 ↔ left.octets.take 12 = mapping) ∧
    (left = right ↔ left.octets = right.octets) ∧
    (left = right ↔ compare left right = .eq) ∧
    compare left right = compare left.toNat right.toNat ∧
    compare right left = (compare left right).swap ∧
    ((compare left right).isLE ∨ (compare right left).isLE) ∧
    ((compare left right).isLE → (compare right left).isLE → left = right) ∧
    ((compare left middle).isLE → (compare middle right).isLE → (compare left right).isLE) ∧
    (∀ native, left.equalsIPv4 native ↔ left = .ofIPv4 native) ∧
    (∀ native, left.equalsIPv6 native ↔ left = .ofIPv6 native ∧ ¬ native.isMapped) ∧
    ∃ one other : Address, left = one.tagged ∧ right = other.tagged ∧
      (left = right ↔ one = other) ∧ compare left right = compare one other ∧
      (∀ native, left.equalsIPv4 native = one.equalsIPv4 native) ∧
      ∀ native, left.equalsIPv6 native = one.equalsIPv6 native := by
  obtain ⟨left, rfl⟩ := first.exists_tagged
  obtain ⟨middle, rfl⟩ := second.exists_tagged
  obtain ⟨right, rfl⟩ := third.exists_tagged
  have order : ∀ one other : Address, (compare one.tagged other.tagged).isLE ↔
      one.bits.toNat ≤ other.bits.toNat := fun _ _ => Address.isLE_compare_iff
  have same : left.tagged = right.tagged ↔ left.bits.toNat = right.bits.toNat := by
    rw [tagged_injective.eq_iff, Address.eq_iff_bits, BitVec.toNat_inj]
  refine ⟨?_, ?_, ?_, ?_, ?_, ?_, ?_, ?_, ?_, ?_, left, right, rfl, rfl, tagged_injective.eq_iff,
    compare_tagged left right, equalsIPv4_tagged left, equalsIPv6_tagged left⟩
  · exact (@Address.take_octets_eq_mapping_iff left).symm
  · exact tagged_injective.eq_iff.trans Address.octets_injective.eq_iff.symm
  · rw [same, compare_tagged, Address.compare_eq, Nat.compare_eq_eq]
  · rw [compare_tagged, toNat_tagged, toNat_tagged, Address.compare_eq]
  · rw [compare_tagged, compare_tagged, Address.compare_eq, Address.compare_eq, Nat.compare_swap]
  · rw [order, order]
    exact Nat.le_total _ _
  · rw [order, order, same]
    exact Nat.le_antisymm
  · rw [order, order, order]
    exact Nat.le_trans
  · intro native
    rw [equalsIPv4_tagged, ofIPv4_eq, tagged_injective.eq_iff, Address.equalsIPv4_iff]
  · intro native
    rw [equalsIPv6_tagged, ofIPv6_eq, tagged_injective.eq_iff, Address.equalsIPv6_iff]

/-- 127.0.0.1 is one address with its own name and in the notation of IPv6, and comes after `::`. -/
theorem canonical_loopback :
    Built .loopback4 ∧ Built .any6 ∧ Built (.ofIPv6 IPv4.loopback.mapped) ∧
      TaggedAddress.loopback4 = .ofIPv6 IPv4.loopback.mapped ∧
      ¬ (compare TaggedAddress.loopback4 .any6).isLE := by
  refine ⟨.loopback4, .any6, .ofIPv6 _, ?_, ?_⟩
  · exact (canonical .loopback4 .any6 (.ofIPv6 _)).2.1.mpr (by decide)
  · rw [(canonical .loopback4 .loopback4 .any6).2.2.2.1]
    decide

-- With another tag, which no address that can be made has, the order and the equality disagree.
example : ∃ other : TaggedAddress, compare other .loopback4 = .eq ∧ other ≠ .loopback4 :=
  ⟨⟨.v6, TaggedAddress.loopback4.octets, rfl⟩, by decide, by decide⟩

end Built

end TaggedAddress

end SelfIsolation
