import SelfIsolation.Address.Native
import SelfIsolation.Text.Numeral

/-! # Text of IPv4 and IPv6 addresses

An IPv4 address is written as a dotted quad: four decimal octets without leading
zeros. An IPv6 address is written as groups of one to four hexadecimal digits,
where one run of zero groups may be left out and leaves a gap `::`, and where a
dotted quad may stand in place of the last two groups. Writing uses lower case
and leaves out the longest run of at least two zero groups, the first of several;
a mapped address keeps its dotted quad.
-/

namespace SelfIsolation

namespace IPv4

/-- One octet of a dotted quad: at most three digits, no leading zero, at most 255. -/
def readOctet? (text : List Char) : Option (BitVec 8) := do
  let value ← Numeral.readDecimal? text
  if text.length ≤ 3 ∧ (text.head? = some '0' → text.length = 1) ∧ value < 256 then
    some (BitVec.ofNat 8 value)
  else none

/-- The octets of a dotted quad. -/
def readOctets? (text : List Char) : Option (List (BitVec 8)) :=
  let fields := text.splitOn '.'
  if fields.length = 4 then fields.mapM readOctet? else none

/-- The address that a dotted quad denotes. -/
def read? (text : List Char) : Option IPv4 := (readOctets? text).map ofOctets

/-- The address as a dotted quad. -/
def write (address : IPv4) : List Char :=
  ['.'].intercalate (address.octets.map fun octet => Numeral.decimal octet.toNat)

end IPv4

namespace IPv6

/-- One group: one to four hexadecimal digits. -/
def readGroup? (text : List Char) : Option (BitVec 16) :=
  if text.length ≤ 4 then (Numeral.readHexadecimal? text).map (BitVec.ofNat 16) else none

/-- The two groups that a dotted quad stands for. -/
def readDotted? (text : List Char) : Option (List (BitVec 16)) :=
  (IPv4.read? text).map fun address => Word.split 16 2 address.bits.toNat

/-- The groups in fields between colons; where `dotted`, the last may be a dotted quad. -/
def readFields? (dotted : Bool) : List (List Char) → Option (List (BitVec 16))
  | [] => some []
  | [field] =>
    match readGroup? field with
    | some group => some [group]
    | none => if dotted then readDotted? field else none
  | field :: fields => do
    let group ← readGroup? field
    let groups ← readFields? dotted fields
    return group :: groups

/-- The groups on one side of a gap, which may be empty. -/
def readSide? (dotted : Bool) (text : List Char) : Option (List (BitVec 16)) :=
  if text.isEmpty then some [] else readFields? dotted (text.splitOn ':')

/-- Splits a text at its first gap `::`. -/
def splitGap? : List Char → Option (List Char × List Char)
  | ':' :: ':' :: rest => some ([], rest)
  | c :: rest => (splitGap? rest).map fun (before, after) => (c :: before, after)
  | [] => none

/-- The eight groups that a text denotes. Without a gap all eight are written; with a gap at
most seven are, and only the side after the gap may end in a dotted quad. -/
def readGroups? (text : List Char) : Option (List (BitVec 16)) :=
  match splitGap? text with
  | none => do
    let groups ← readFields? true (text.splitOn ':')
    if groups.length = 8 then some groups else none
  | some (before, after) => do
    let front ← readSide? false before
    let back ← readSide? true after
    if front.length + back.length ≤ 7 then
      some (front ++ List.replicate (8 - (front.length + back.length)) 0 ++ back)
    else none

/-- The address that a text denotes. -/
def read? (text : List Char) : Option IPv6 := (readGroups? text).map ofGroups

/-- A run of zero groups: where it starts and how long it is. -/
structure ZeroRun where
  /-- The number of groups before the run. -/
  start : Nat
  /-- The number of groups in the run. -/
  length : Nat

/-- The longest run of zero groups, the first of several. -/
def longestZeroRun (groups : List (BitVec 16)) : ZeroRun :=
  (List.range groups.length).foldl (fun longest start =>
    let length := ((groups.drop start).takeWhile (· == 0)).length
    if longest.length < length then ⟨start, length⟩ else longest) ⟨0, 0⟩

/-- Groups with colons between them. -/
def writeGroups (groups : List (BitVec 16)) : List Char :=
  [':'].intercalate (groups.map fun group => Numeral.hexadecimal group.toNat)

/-- The address with its longest run of at least two zero groups left out. -/
def writeCompressed (address : IPv6) : List Char :=
  let run := longestZeroRun address.groups
  if 1 < run.length then
    writeGroups (address.groups.take run.start) ++ "::".toList ++
      writeGroups (address.groups.drop (run.start + run.length))
  else writeGroups address.groups

/-- The address as text. -/
def write (address : IPv6) : List Char :=
  if address.isMapped then "::ffff:".toList ++ address.tail.write else address.writeCompressed

end IPv6

namespace IPAddress

/-- The address that a text of either family denotes. -/
def read? (text : List Char) : Option IPAddress :=
  match IPv4.read? text with
  | some address => some (.v4 address)
  | none => (IPv6.read? text).map .v6

/-- The address in the text of its family. -/
def write : IPAddress → List Char
  | .v4 address => address.write
  | .v6 address => address.write

end IPAddress

end SelfIsolation
