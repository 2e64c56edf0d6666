import Mathlib.Data.List.Nodup
import SelfIsolation.Proofs.Capability.Listing
import SelfIsolation.Proofs.Text.Fields
import SelfIsolation.Proofs.Text.Numeral

/-! # The text of a capability set

The names of capabilities are distinct and hold neither commas nor blanks, so the
names in a text can be told apart from each other and from the mask after them. The
text of a set is the only way to write it
(`SelfIsolation.CapSet.written_iff`), the set is read back from it
(`SelfIsolation.CapSet.Written.read`), and so no two sets have the same text
(`SelfIsolation.CapSet.text_identifies`).
-/

namespace SelfIsolation

namespace Capability

theorem names_nodup : (all.map name).Nodup := by
  decide

theorem name_injective {left right : Capability} (same : left.name = right.name) : left = right :=
  List.inj_on_of_nodup_map names_nodup left.mem_all right.mem_all same

/-- The names of capabilities have neither commas nor blanks. -/
theorem separators_notMem_name (capability : Capability) :
    ',' ∉ capability.name.toList ∧ ' ' ∉ capability.name.toList := by
  cases capability <;> decide

/-- The capability with the given name. -/
def ofName? (name : List Char) : Option Capability :=
  all.find? fun capability => capability.name.toList = name

/-- A capability is found by its name. -/
theorem ofName?_name (capability : Capability) :
    ofName? capability.name.toList = some capability := by
  unfold ofName?
  cases found : all.find? fun other => other.name.toList = capability.name.toList with
  | none =>
      have unlike := List.find?_eq_none.mp found capability capability.mem_all
      exact absurd (decide_eq_true rfl) unlike
  | some other =>
      have alike := List.find?_some found
      rw [decide_eq_true_eq, String.toList_inj] at alike
      rw [name_injective alike]

end Capability

namespace CapSet

/-! ## The format -/

/-- Capabilities are listed in the order of their bits, and they are the members of the set. -/
structure Lists (members : List Capability) (set : CapSet) : Prop where
  ascending : members.Pairwise fun left right => left.bit < right.bit
  exact : ∀ capability, capability ∈ members ↔ capability ∈ set

/-- The bits of a mask are the bits of the set that no capability has. -/
def Remains (mask : Nat) (set : CapSet) : Prop := ∀ bit, mask.testBit bit = true ↔
  set.containsBit bit = true ∧ ∀ capability : Capability, capability.bit ≠ bit

/-- Names of capabilities with commas between them. -/
def writeNames (members : List Capability) : List Char :=
  [','].intercalate (members.map fun capability => capability.name.toList)

/-- How a set is written. -/
inductive Written : CapSet → List Char → Prop
  | nothing : Written ∅ "(none)".toList
  | named {set : CapSet} {members : List Capability} (nonempty : set ≠ ∅)
      (listed : Lists members set) (complete : Remains 0 set) : Written set (writeNames members)
  | masked {set : CapSet} {members : List Capability} {mask : Nat} (listed : Lists members set)
      (remains : Remains mask set) (nonzero : mask ≠ 0) :
      Written set (writeNames members ++ " +0x".toList ++ Numeral.hexadecimal mask)

/-- The set that a text tells: the capabilities that are named before the first blank, and the bits
of the mask after it. -/
def read (text : List Char) : CapSet :=
  let named := (text.takeWhile (· ≠ ' ')).splitOn ','
  let masked := (text.dropWhile (· ≠ ' ')).drop " +0x".length
  ofList (named.filterMap Capability.ofName?) ∪
    ⟨BitVec.ofNat 64 ((Numeral.readHexadecimal? masked).getD 0)⟩

variable {set : CapSet} {members : List Capability} {mask : Nat}

/-! ## Reading a written set -/

/-- Capabilities are found again in their names between commas. -/
theorem ofName?_writeNames (members : List Capability) :
    ((writeNames members).splitOn ',').filterMap Capability.ofName? = members := by
  cases members with
  | nil => decide
  | cons first rest =>
      have split : (writeNames (first :: rest)).splitOn ',' =
          (first :: rest).map fun capability => capability.name.toList := by
        refine List.splitOn_intercalate ',' (fun field listed => ?_) (List.cons_ne_nil _ _)
        obtain ⟨capability, -, rfl⟩ := List.mem_map.mp listed
        exact capability.separators_notMem_name.1
      have named : (Capability.ofName? ∘ fun capability => capability.name.toList) = some :=
        funext Capability.ofName?_name
      rw [split, List.filterMap_map, named, List.filterMap_some]

/-- There is no blank among names between commas. -/
theorem blank_notMem_writeNames : ' ' ∉ writeNames members := by
  intro member
  obtain same | ⟨field, listed, inside⟩ := mem_of_mem_intercalate member
  · exact absurd same (by decide)
  · obtain ⟨capability, -, rfl⟩ := List.mem_map.mp listed
    exact capability.separators_notMem_name.2 inside

/-- Names are read up to the end or the first blank, and the mask from there. -/
theorem read_writeNames_append {rest : List Char} (starts : ∀ c, rest.head? = some c → c = ' ') :
    read (writeNames members ++ rest) = ofList members ∪
      ⟨BitVec.ofNat 64 ((Numeral.readHexadecimal? (rest.drop " +0x".length)).getD 0)⟩ := by
  have unblank : ∀ c ∈ writeNames members, decide (c ≠ ' ') = true := by
    intro c member
    exact decide_eq_true fun same => blank_notMem_writeNames (same ▸ member)
  have ended : rest.takeWhile (· ≠ ' ') = [] ∧ rest.dropWhile (· ≠ ' ') = rest := by
    cases rest with
    | nil => exact ⟨rfl, rfl⟩
    | cons c others =>
        rw [starts c rfl]
        exact ⟨rfl, rfl⟩
  rw [read, List.takeWhile_append_of_pos unblank, List.dropWhile_append_of_pos unblank, ended.1,
    ended.2, List.append_nil, ofName?_writeNames]

/-- The members of a set and its other bits are all of it. -/
theorem ofList_union_ofNat (listed : Lists members set) (remains : Remains mask set) :
    ofList members ∪ ⟨BitVec.ofNat 64 mask⟩ = set := by
  refine eq_of_containsBit fun bit => Bool.eq_iff_iff.mpr ?_
  have masked : (⟨BitVec.ofNat 64 mask⟩ : CapSet).containsBit bit =
      (decide (bit < width) && mask.testBit bit) := BitVec.getLsbD_ofNat 64 mask bit
  rw [containsBit_union, Bool.or_eq_true, containsBit_ofList, masked, Bool.and_eq_true,
    decide_eq_true_eq, remains bit]
  constructor
  · rintro (⟨capability, member, rfl⟩ | ⟨-, member, -⟩)
    · exact (listed.exact capability).mp member
    · exact member
  · intro member
    by_cases known : ∃ capability : Capability, capability.bit = bit
    · obtain ⟨capability, rfl⟩ := known
      exact .inl ⟨capability, (listed.exact capability).mpr member, rfl⟩
    · exact .inr ⟨lt_width_of_containsBit member, member, not_exists.mp known⟩

/-- A set is read back from how it is written. -/
theorem Written.read {text : List Char} (written : Written set text) : CapSet.read text = set := by
  cases written with
  | nothing => decide +kernel
  | named nonempty listed complete =>
      rw [← List.append_nil (writeNames _), read_writeNames_append fun c head => (by cases head)]
      exact ofList_union_ofNat listed complete
  | @masked _ members mask listed remains nonzero =>
      have starts : ∀ c, (" +0x".toList ++ Numeral.hexadecimal mask).head? = some c → c = ' ' :=
        fun c head => (Option.some.inj head).symm
      have digits : (" +0x".toList ++ Numeral.hexadecimal mask).drop " +0x".length =
          Numeral.hexadecimal mask := rfl
      rw [List.append_assoc, read_writeNames_append starts, digits,
        Numeral.readHexadecimal?_hexadecimal, Option.getD_some, ofList_union_ofNat listed remains]

/-! ## Writing a set -/

theorem lists_toList (set : CapSet) : Lists set.toList set :=
  ⟨set.toList_ascending, fun _ => mem_toList⟩

/-- The unnamed part of a set remains of it. -/
theorem remains_unnamed (set : CapSet) : Remains set.unnamed.bits.toNat set := by
  intro bit
  rw [BitVec.testBit_toNat]
  exact containsBit_unnamed

theorem Lists.nodup (listed : Lists members set) : members.Nodup :=
  listed.ascending.imp fun smaller same => Nat.ne_of_lt smaller (congrArg _ same)

/-- There is one list of the members. -/
theorem Lists.eq_toList (listed : Lists members set) : members = set.toList := by
  have known := set.lists_toList
  have same : members.Perm set.toList :=
    (List.perm_ext_iff_of_nodup listed.nodup known.nodup).mpr fun capability =>
      (listed.exact capability).trans (known.exact capability).symm
  refine same.eq_of_pairwise (fun _ _ _ _ less more => ?_) listed.ascending known.ascending
  exact absurd less (Nat.lt_asymm more)

/-- What remains of a set, as a number, is its unnamed part. -/
theorem Remains.eq_unnamed (remains : Remains mask set) : mask = set.unnamed.bits.toNat :=
  Nat.eq_of_testBit_eq fun bit =>
    Bool.eq_iff_iff.mpr ((remains bit).trans (set.remains_unnamed bit).symm)

/-- Nothing is unnamed if the number of the unnamed part is zero. -/
theorem unnamed_eq_empty_iff : set.unnamed = ∅ ↔ set.unnamed.bits.toNat = 0 := by
  constructor
  · intro none
    rw [none]
    rfl
  · intro zero
    have bits : set.unnamed.bits = 0 := BitVec.eq_of_toNat_eq zero
    exact congrArg mk bits

/-- The names of a set, joined as strings, are its names between commas. -/
theorem toList_names (set : CapSet) :
    (",".intercalate (set.toList.map Capability.name)).toList = writeNames set.toList := by
  rw [String.toList_intercalate, List.map_map]
  rfl

/-- A set of capabilities is written by their names. -/
theorem text_of_named (nonempty : set ≠ ∅) (complete : set.unnamed = ∅) :
    set.text.toList = writeNames set.toList := by
  have some : set.isEmpty = false := decide_eq_false nonempty
  have none : set.unnamed.isEmpty = true := decide_eq_true complete
  simp only [text, some, none, Bool.false_eq_true, ↓reduceIte]
  exact set.toList_names

/-- A set with unnamed bits is written by its names and these bits in hexadecimal. -/
theorem text_of_masked (remains : set.unnamed ≠ ∅) : set.text.toList =
    writeNames set.toList ++ " +0x".toList ++ Numeral.hexadecimal set.unnamed.bits.toNat := by
  have some : set.isEmpty = false := by
    refine decide_eq_false fun empty => remains ?_
    rw [empty]
    rfl
  have others : set.unnamed.isEmpty = false := decide_eq_false remains
  simp only [text, some, others, Bool.false_eq_true, ↓reduceIte]
  change (",".intercalate (set.toList.map Capability.name) ++ " +" ++ set.unnamed.mask).toList = _
  have digits : set.unnamed.mask.toList =
      '0' :: 'x' :: Numeral.hexadecimal set.unnamed.bits.toNat := String.toList_ofList
  rw [String.toList_append, String.toList_append, toList_names, digits, List.append_assoc,
    List.append_assoc]
  rfl

/-- There is one way to write a set, its text. -/
theorem written_iff {text : List Char} : set.text.toList = text ↔ Written set text := by
  constructor
  · rintro rfl
    by_cases nonempty : set = ∅
    · rw [nonempty]
      exact .nothing
    · by_cases complete : set.unnamed = ∅
      · rw [text_of_named nonempty complete]
        refine .named nonempty set.lists_toList ?_
        rw [← unnamed_eq_empty_iff.mp complete]
        exact set.remains_unnamed
      · rw [text_of_masked complete]
        exact .masked set.lists_toList set.remains_unnamed (complete ∘ unnamed_eq_empty_iff.mpr)
  · intro written
    cases written with
    | nothing => rfl
    | named nonempty listed complete =>
        have none := unnamed_eq_empty_iff.mpr complete.eq_unnamed.symm
        rw [listed.eq_toList, text_of_named nonempty none]
    | masked listed remains nonzero =>
        rw [remains.eq_unnamed] at nonzero ⊢
        rw [listed.eq_toList, text_of_masked (nonzero ∘ unnamed_eq_empty_iff.mp)]

/-- **The text of a capability set identifies it.** Sets of the same text are the same set. The text
is `(none)` for the set without members, and otherwise the names of its members in the order of the
bits, no name twice, and the bits that no capability has as one mask. The set of the listed members
is the set as far as there are capabilities. -/
theorem text_identifies :
    (∀ left right : CapSet, left.text = right.text → left = right) ∧
    (∀ (set : CapSet) (text : List Char), set.text.toList = text ↔ Written set text) ∧
    (∀ set : CapSet, Lists set.toList set ∧ (set.toList.map Capability.name).Nodup) ∧
    ∀ (set : CapSet) (bit : Nat), (ofList set.toList).containsBit bit = true ↔
      set.containsBit bit = true ∧ ∃ capability : Capability, capability.bit = bit := by
  refine ⟨fun left right same => ?_, fun _ _ => written_iff, fun set => ⟨set.lists_toList, ?_⟩, ?_⟩
  · have first : read left.text.toList = left := (written_iff.mp rfl).read
    have second : read right.text.toList = right := (written_iff.mp rfl).read
    rw [← first, same, second]
  · exact Capability.names_nodup.sublist (List.filter_sublist.map _)
  · intro set bit
    rw [ofList_toList, containsBit_inter, Bool.and_eq_true, containsBit_all]

/-- However a set was made, its text is the same; bits without a capability are written even where
nothing is named. -/
theorem text_identifies_made :
    (ofList [.netAdmin, .setuid, .netAdmin]).text = (⟨0x1080⟩ : CapSet).text ∧
      ofList [.netAdmin, .setuid, .netAdmin] = ⟨0x1080⟩ ∧
      Written ⟨0x4000000000000⟩ " +0x4000000000000".toList := by
  obtain ⟨identifies, written, -⟩ := text_identifies
  have same : (ofList [.netAdmin, .setuid, .netAdmin]).text = (⟨0x1080⟩ : CapSet).text := by
    decide +kernel
  exact ⟨same, identifies _ _ same, (written _ _).mp (by decide +kernel)⟩

end CapSet

end SelfIsolation
