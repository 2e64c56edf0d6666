import SelfIsolation.Proofs.Address.DottedQuad

/-! # Reading compressed addresses

An IPv6 address is read back from its text. Written groups hold no colon, so the
only gap of a text is the one that was left for a run of zeros
(`SelfIsolation.IPv6.splitGap?_writeGroups_append`), and the run that is left out
holds zeros only (`SelfIsolation.IPv6.append_longestZeroRun`). Both together give
the groups back (`SelfIsolation.IPv6.read?_writeCompressed`). A dotted quad after a
gap stands for the last two groups (`SelfIsolation.IPv6.read?_dotted`).
-/

namespace SelfIsolation.IPv6

theorem length_groups (address : IPv6) : address.groups.length = 8 := Word.length_split 16 8 _

/-- The groups of an address make up the address. -/
theorem ofGroups_groups (address : IPv6) : ofGroups address.groups = address := by
  have value : Word.join address.groups = address.bits.toNat :=
    (Word.join_split 16 8 _).trans (Nat.mod_eq_of_lt address.bits.isLt)
  rw [ofGroups, value, BitVec.ofNat_toNat, BitVec.setWidth_eq]

/-! ## Groups and sides -/

/-- A group is read back from its hexadecimal digits. -/
theorem readGroup?_hexadecimal (group : BitVec 16) :
    readGroup? (Numeral.hexadecimal group.toNat) = some group := by
  have short : (Numeral.hexadecimal group.toNat).length ≤ 4 :=
    Numeral.length_hexadecimal_le (by decide) group.isLt
  rw [readGroup?, if_pos short, Numeral.readHexadecimal?_hexadecimal, Option.map_some,
    BitVec.ofNat_toNat, BitVec.setWidth_eq]

/-- No colon stands among hexadecimal digits. -/
theorem colon_notMem_hexadecimal (n : Nat) : ':' ∉ Numeral.hexadecimal n := by
  intro member
  obtain ⟨digit, read⟩ :=
    Numeral.hexDigit?_of_readHexadecimal? (Numeral.readHexadecimal?_hexadecimal n) member
  cases read

/-- A field with a dot is no group. -/
theorem readGroup?_eq_none {text : List Char} (dot : '.' ∈ text) : readGroup? text = none := by
  rw [readGroup?]
  split
  case isTrue =>
      cases read : Numeral.readHexadecimal? text with
      | none => rfl
      | some value =>
          obtain ⟨digit, read⟩ := Numeral.hexDigit?_of_readHexadecimal? read dot
          cases read
  case isFalse => rfl

/-- The fields of groups that were written are read as these groups, dotted end or not. -/
theorem readFields?_written (dotted : Bool) (groups : List (BitVec 16)) :
    readFields? dotted (groups.map fun group => Numeral.hexadecimal group.toNat) =
      some groups := by
  induction groups with
  | nil => rfl
  | cons group groups ih =>
      cases groups with
      | nil => simp only [List.map_cons, List.map_nil, readFields?, readGroup?_hexadecimal]
      | cons next groups =>
          rw [List.map_cons] at ih
          simp only [List.map_cons, readFields?, readGroup?_hexadecimal, ih, Option.pure_def,
            Option.bind_eq_bind, Option.bind_some]

/-- The text of groups starts with a digit. -/
theorem writeGroups_cons (group : BitVec 16) (groups : List (BitVec 16)) :
    ∃ c text, writeGroups (group :: groups) = c :: text ∧ c ≠ ':' := by
  have colonless := colon_notMem_hexadecimal group.toNat
  cases digits : Numeral.hexadecimal group.toNat with
  | nil => exact absurd digits Nat.toDigits_ne_nil
  | cons c digits' =>
      rw [digits, List.mem_cons, not_or] at colonless
      have written := congrArg (fun field => [':'].intercalate (field ::
        groups.map fun group => Numeral.hexadecimal group.toNat)) digits
      exact ⟨c, _, written.trans List.intercalate_cons_cons_left, Ne.symm colonless.1⟩

/-- Groups that were written are found again by splitting at the colons. -/
theorem splitOn_writeGroups {groups : List (BitVec 16)} (nonempty : groups ≠ []) :
    (writeGroups groups).splitOn ':' =
      groups.map fun group => Numeral.hexadecimal group.toNat := by
  refine List.splitOn_intercalate ':' ?_ fun empty => nonempty (List.map_eq_nil_iff.mp empty)
  intro field member
  obtain ⟨group, -, rfl⟩ := List.mem_map.mp member
  exact colon_notMem_hexadecimal _

/-- Groups that were written and split at the colons are read back. -/
theorem readFields?_writeGroups (dotted : Bool) {groups : List (BitVec 16)}
    (nonempty : groups ≠ []) :
    readFields? dotted ((writeGroups groups).splitOn ':') = some groups := by
  rw [splitOn_writeGroups nonempty, readFields?_written]

/-- The groups on a side of a gap are read back from their text, also where there are none. -/
theorem readSide?_writeGroups (dotted : Bool) (groups : List (BitVec 16)) :
    readSide? dotted (writeGroups groups) = some groups := by
  cases groups with
  | nil => rfl
  | cons group groups =>
      have read := readFields?_writeGroups dotted (List.cons_ne_nil group groups)
      have nonempty : (writeGroups (group :: groups)).isEmpty = false := by
        obtain ⟨c, text, written, -⟩ := writeGroups_cons group groups
        rw [written]
        rfl
      rw [readSide?, nonempty, if_neg Bool.false_ne_true, read]

/-- A dotted quad at the end of a side stands for two groups. -/
theorem readSide?_dotted (address : IPv4) :
    readSide? true address.write = some (Word.split 16 2 address.bits.toNat) := by
  have nonempty : address.write.isEmpty = false :=
    List.isEmpty_eq_false_iff.mpr (List.ne_nil_of_mem address.dot_mem_write)
  simp only [readSide?, nonempty, Bool.false_eq_true, ↓reduceIte,
    List.splitOn_eq_singleton address.colon_notMem_write, readFields?,
    readGroup?_eq_none address.dot_mem_write, readDotted?, address.read?_write, Option.map_some]

/-! ## Gaps -/

/-- A gap is looked for past digits without a colon. -/
theorem splitGap?_append {digits : List Char} (colonless : ':' ∉ digits) (rest : List Char) :
    splitGap? (digits ++ rest) =
      (splitGap? rest).map fun (before, after) => (digits ++ before, after) := by
  induction digits with
  | nil => exact Option.map_id'.symm
  | cons c digits ih =>
      rw [List.mem_cons, not_or] at colonless
      rw [List.cons_append, splitGap?, ih colonless.2, Option.map_map]
      · rfl
      · exact fun _ same _ => colonless.1 same.symm

/-- A gap in what follows groups is the first gap of the whole. -/
theorem splitGap?_writeGroups_append (groups : List (BitVec 16)) (rest : List Char) :
    splitGap? (writeGroups groups ++ rest) =
      (splitGap? rest).map fun (before, after) => (writeGroups groups ++ before, after) := by
  induction groups with
  | nil => exact Option.map_id'.symm
  | cons group groups ih =>
      cases groups with
      | nil =>
          have single : writeGroups [group] = Numeral.hexadecimal group.toNat :=
            List.intercalate_singleton
          rw [single, splitGap?_append (colon_notMem_hexadecimal _)]
      | cons next groups =>
          have more : writeGroups (group :: next :: groups) =
              Numeral.hexadecimal group.toNat ++ ':' :: writeGroups (next :: groups) := by
            rw [writeGroups, List.map_cons, List.map_cons, List.intercalate_cons_cons,
              List.append_assoc]
            rfl
          obtain ⟨c, text, written, notColon⟩ := writeGroups_cons next groups
          have between : splitGap? (':' :: (writeGroups (next :: groups) ++ rest)) =
              (splitGap? (writeGroups (next :: groups) ++ rest)).map
                fun (before, after) => (':' :: before, after) := by
            rw [splitGap?]
            intro _ _ gap
            rw [written] at gap
            exact notColon (List.cons.inj gap).1
          rw [more, List.append_assoc, splitGap?_append (colon_notMem_hexadecimal _),
            List.cons_append, between, ih, Option.map_map, Option.map_map]
          refine congrArg (fun change => (splitGap? rest).map change) (funext fun split => ?_)
          simp only [Function.comp_apply, List.append_assoc, List.cons_append]

/-! ## The run that is left out -/

/-- The longest run of zeros has nothing but zeros. -/
theorem longestZeroRun_zero (groups : List (BitVec 16)) :
    (groups.drop (longestZeroRun groups).start).take (longestZeroRun groups).length =
      List.replicate (longestZeroRun groups).length 0 := by
  rw [longestZeroRun]
  refine List.foldlRecOn (motive := fun run : ZeroRun =>
    (groups.drop run.start).take run.length = List.replicate run.length 0) _ _ rfl ?_
  intro longest zero start _
  dsimp only
  split
  case isTrue =>
      rw [List.eq_replicate_iff]
      have whole : (groups.drop start).take ((groups.drop start).takeWhile (· == 0)).length =
          (groups.drop start).takeWhile (· == 0) :=
        List.prefix_iff_eq_take.mp (List.takeWhile_prefix _) |>.symm
      have zeros : ∀ group ∈ (groups.drop start).takeWhile (· == 0), (group == 0) = true :=
        List.all_eq_true.mp List.all_takeWhile
      rw [whole]
      exact ⟨rfl, fun group member => eq_of_beq (zeros group member)⟩
  case isFalse => exact zero

/-- Zeros in place of the run that is left out make up the whole. -/
theorem append_longestZeroRun (groups : List (BitVec 16)) :
    groups.take (longestZeroRun groups).start ++ List.replicate (longestZeroRun groups).length 0 ++
      groups.drop ((longestZeroRun groups).start + (longestZeroRun groups).length) = groups := by
  rw [← longestZeroRun_zero, List.append_assoc, ← List.drop_drop, List.take_append_drop,
    List.take_append_drop]

/-! ## Whole addresses -/

/-- Groups that were written have no gap. -/
theorem splitGap?_writeGroups (groups : List (BitVec 16)) :
    splitGap? (writeGroups groups) = none := by
  have none := splitGap?_writeGroups_append groups []
  rwa [List.append_nil, splitGap?, Option.map_none] at none

/-- The groups of an address are read back from its compressed text. -/
theorem readGroups?_writeCompressed (address : IPv6) :
    readGroups? address.writeCompressed = some address.groups := by
  have nonempty : address.groups ≠ [] := by
    intro empty
    have count := address.length_groups
    rw [empty] at count
    cases count
  have whole := append_longestZeroRun address.groups
  simp only [writeCompressed]
  generalize longestZeroRun address.groups = run at whole ⊢
  split
  case isTrue long =>
      have count := congrArg List.length whole
      rw [List.length_append, List.length_append, List.length_replicate, length_groups] at count
      have leftOut : 8 - ((address.groups.take run.start).length +
          (address.groups.drop (run.start + run.length)).length) = run.length := by
        omega
      have gap : ∀ after, splitGap? ("::".toList ++ after) = some ([], after) := fun _ => rfl
      rw [readGroups?, List.append_assoc, splitGap?_writeGroups_append, gap]
      simp only [Option.map_some, List.append_nil, readSide?_writeGroups, Option.bind_eq_bind,
        Option.bind_some]
      rw [if_pos (by omega), leftOut, whole]
  case isFalse =>
      rw [readGroups?, splitGap?_writeGroups]
      simp only [readFields?_writeGroups true nonempty, Option.bind_eq_bind, Option.bind_some,
        length_groups, ↓reduceIte]

/-- An address is read back from its compressed text. -/
theorem read?_writeCompressed (address : IPv6) : read? address.writeCompressed = some address := by
  rw [read?, readGroups?_writeCompressed, Option.map_some, ofGroups_groups]

/-- A dotted quad after a gap stands for the last four octets, all others being zero. -/
theorem read?_dotted (address : IPv4) :
    read? ("::".toList ++ address.write) = some ⟨address.bits.setWidth 128⟩ := by
  have gap : splitGap? ("::".toList ++ address.write) = some ([], address.write) := rfl
  have count : (Word.split 16 2 address.bits.toNat).length = 2 := Word.length_split _ _ _
  have front : readSide? false [] = some [] := rfl
  have groups : readGroups? ("::".toList ++ address.write) =
      some (List.replicate 6 0 ++ Word.split 16 2 address.bits.toNat) := by
    simp only [readGroups?, gap, front, readSide?_dotted, Option.bind_eq_bind, Option.bind_some,
      count, List.length_nil, List.nil_append, Nat.zero_add, Nat.reduceLeDiff, ↓reduceIte,
      Nat.reduceSub]
  have value : Word.join (List.replicate 6 0 ++ Word.split 16 2 address.bits.toNat) =
      address.bits.toNat := by
    rw [Word.join_replicate_append, Word.join_split]
    exact Nat.mod_eq_of_lt address.bits.isLt
  rw [read?, groups, Option.map_some, ofGroups, value, BitVec.ofNat_toNat]

end SelfIsolation.IPv6
