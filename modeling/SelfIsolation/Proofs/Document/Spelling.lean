import SelfIsolation.Document.Quoted
import SelfIsolation.Proofs.Text.Numeral

/-! # Spellings of quoted text

A character of a quoted text can be spelled in several ways: as it is, by a short
escape, or by the number of its units of UTF-16 (`SelfIsolation.Document.Spells`).
However its characters are spelled, a text is read back
(`SelfIsolation.Document.Spelling.read`).
-/

namespace SelfIsolation.Document

open Numeral (Hexadecimal)

/-- The letters of the short escapes, with the characters that they stand for. -/
def shortEscapes : List (Char × Char) := [
  ('"', '"'), ('\\', '\\'), ('/', '/'), ('b', '\x08'), ('f', '\x0c'), ('n', '\n'), ('r', '\r'),
  ('t', '\t')]

/-- The ways to spell a character. -/
inductive Spells (c : Char) : List Char → Prop
  | plain (uncontrolled : 0x20 ≤ c.toNat) (unquoted : c ≠ '"') (unescaped : c ≠ '\\') :
      Spells c [c]
  | short {letter : Char} (listed : (letter, c) ∈ shortEscapes) : Spells c ['\\', letter]
  | unit {digits : List Char} (four : digits.length = 4) (number : Hexadecimal digits c.toNat) :
      Spells c ('\\' :: 'u' :: digits)
  | pair {high low : List Char} (large : 0x10000 ≤ c.toNat)
      (four : high.length = 4) (front : Hexadecimal high (0xd800 + (c.toNat - 0x10000) / 0x400))
      (four' : low.length = 4) (back : Hexadecimal low (0xdc00 + (c.toNat - 0x10000) % 0x400)) :
      Spells c ('\\' :: 'u' :: (high ++ '\\' :: 'u' :: low))

/-- The ways to spell a text. -/
inductive Spelling : List Char → List Char → Prop
  | nil : Spelling [] []
  | cons {c : Char} {content written text : List Char} (first : Spells c written)
      (rest : Spelling content text) : Spelling (c :: content) (written ++ text)

/-- A text without controls, quotes and backslashes is a spelling of itself. -/
theorem Spelling.itself {content : List Char}
    (plain : ∀ c ∈ content, 0x20 ≤ c.toNat ∧ c ≠ '"' ∧ c ≠ '\\') : Spelling content content := by
  induction content with
  | nil => exact .nil
  | cons c content ih =>
      obtain ⟨⟨uncontrolled, unquoted, unescaped⟩, others⟩ := List.forall_mem_cons.mp plain
      exact .cons (.plain uncontrolled unquoted unescaped) (ih others)

/-- Every character can be spelled. -/
theorem exists_spells (c : Char) : ∃ written, Spells c written := by
  by_cases uncontrolled : 0x20 ≤ c.toNat
  · by_cases quote : c = '"'
    · subst quote
      exact ⟨_, .short (List.mem_cons_self)⟩
    · by_cases backslash : c = '\\'
      · subst backslash
        exact ⟨_, .short (List.mem_cons_of_mem _ List.mem_cons_self)⟩
      · exact ⟨_, .plain uncontrolled quote backslash⟩
  · have small : c.toNat / 16 < 16 := by omega
    have last : c.toNat % 16 < 16 := Nat.mod_lt _ (by decide)
    have digits := Hexadecimal.append (.append (.append (.append .nil (.lower 0)) (.lower 0))
      (.lower ⟨c.toNat / 16, small⟩)) (.lower ⟨c.toNat % 16, last⟩)
    have value : 16 * (16 * (16 * (16 * 0 + 0) + 0) + c.toNat / 16) + c.toNat % 16 = c.toNat := by
      omega
    exact ⟨_, .unit rfl (value ▸ digits)⟩

/-- Every text can be spelled. -/
theorem exists_spelling (content : List Char) : ∃ text, Spelling content text := by
  induction content with
  | nil => exact ⟨[], .nil⟩
  | cons c content ih =>
      obtain ⟨written, spells⟩ := exists_spells c
      obtain ⟨text, spelling⟩ := ih
      exact ⟨_, .cons spells spelling⟩

namespace Piece

/-- What is written reads as pieces, whatever follows. -/
def Reads (written : List Char) (pieces : List Piece) : Prop :=
  ∀ {text later : List Char} {others : List Piece}, read? text = some (others, later) →
    read? (written ++ text) = some (pieces ++ others, later)

/-- Pieces stand for a character, whatever follows. -/
def Joins (pieces : List Piece) (c : Char) : Prop :=
  ∀ {others : List Piece} {content : List Char}, join? others = some content →
    join? (pieces ++ others) = some (c :: content)

/-- A character that needs no escape is read as it is. -/
theorem reads_plain {c : Char} (uncontrolled : 0x20 ≤ c.toNat) (unquoted : c ≠ '"')
    (unescaped : c ≠ '\\') : Reads [c] [.char c] := by
  intro text later others read
  have plain : isPlain c = true := by
    have large : ' ' ≤ c := uncontrolled
    simp [isPlain, large, unquoted, unescaped]
  rw [List.singleton_append, read?.eq_4, if_pos plain, read]
  · rfl
  · exact unquoted
  · exact fun _ _ _ _ _ same => absurd same unescaped
  · exact fun _ _ same => absurd same unescaped

/-- A short escape is read as the character that it stands for. -/
theorem reads_short {letter c : Char} (listed : (letter, c) ∈ shortEscapes) :
    Reads ['\\', letter] [.char c] := by
  intro text later others read
  have known : short? letter = some c := by
    simp only [shortEscapes, List.mem_cons, Prod.mk.injEq, List.not_mem_nil, or_false] at listed
    rcases listed with ⟨rfl, rfl⟩ | ⟨rfl, rfl⟩ | ⟨rfl, rfl⟩ | ⟨rfl, rfl⟩ | ⟨rfl, rfl⟩ |
      ⟨rfl, rfl⟩ | ⟨rfl, rfl⟩ | ⟨rfl, rfl⟩ <;> rfl
  change read? ('\\' :: letter :: text) = _
  rw [read?.eq_3, known, read]
  · rfl
  · rintro a b c d rest rfl
    cases known

/-- Four hexadecimal digits are read as a unit of UTF-16. -/
theorem reads_unit {digits : List Char} {value : Nat} (four : digits.length = 4)
    (number : Hexadecimal digits value) : Reads ('\\' :: 'u' :: digits) [.unit value] := by
  intro text later others read
  match digits with
  | [a, b, c, d] =>
      change read? ('\\' :: 'u' :: a :: b :: c :: d :: text) = _
      rw [read?.eq_2, number.read (List.cons_ne_nil _ _), read]
      rfl

/-- Spellings are read one after the other. -/
theorem Reads.append {first second : List Char} {pieces others : List Piece}
    (head : Reads first pieces) (tail : Reads second others) :
    Reads (first ++ second) (pieces ++ others) := by
  intro text later rest read
  rw [List.append_assoc, List.append_assoc]
  exact head (tail read)

/-- Two escapes with four digits each are read as two units. -/
theorem reads_pair {high low : List Char} {front back : Nat} (four : high.length = 4)
    (first : Hexadecimal high front) (four' : low.length = 4) (second : Hexadecimal low back) :
    Reads ('\\' :: 'u' :: (high ++ '\\' :: 'u' :: low)) [.unit front, .unit back] :=
  Reads.append (reads_unit four first) (reads_unit four' second)

/-- A piece that is a character stands for it. -/
theorem joins_char (c : Char) : Joins [.char c] c := by
  intro others content joined
  change (join? others).map (c :: ·) = _
  rw [joined]
  rfl

/-- A character below the pairs is no half of one. -/
theorem halfless (c : Char) (small : c.toNat < 0x10000) :
    isHigh c.toNat = false ∧ isLow c.toNat = false := by
  have valid : c.toNat < 0xd800 ∨ 0xdfff < c.toNat ∧ c.toNat < 0x110000 := c.valid
  simp only [isHigh, isLow, Bool.and_eq_false_iff, decide_eq_false_iff_not]
  omega

/-- A character with a small number is one unit. -/
theorem joins_unit {c : Char} (small : c.toNat < 0x10000) : Joins [.unit c.toNat] c := by
  intro others content joined
  obtain ⟨high, low⟩ := halfless c small
  have same : Char.ofNat c.toNat = c := Char.ofNat_toNat c
  rw [List.singleton_append]
  -- Another unit that follows is none of its business.
  by_cases unit : ∃ value pieces, others = .unit value :: pieces
  · obtain ⟨value, pieces, rfl⟩ := unit
    rw [join?, high, low, joined, same]
    rfl
  · rw [join?.eq_4 _ _ fun value pieces same => unit ⟨value, pieces, same⟩, high, low, joined,
      same]
    rfl

/-- A character with a large number is two units, a high surrogate and a low one. -/
theorem joins_pair {c : Char} (large : 0x10000 ≤ c.toNat) :
    Joins [.unit (0xd800 + (c.toNat - 0x10000) / 0x400),
      .unit (0xdc00 + (c.toNat - 0x10000) % 0x400)] c := by
  intro others content joined
  have bound : c.toNat < 0x110000 := by
    have valid : c.toNat < 0xd800 ∨ 0xdfff < c.toNat ∧ c.toNat < 0x110000 := c.valid
    omega
  have high : isHigh (0xd800 + (c.toNat - 0x10000) / 0x400) = true := by
    simp only [isHigh, Bool.and_eq_true, decide_eq_true_eq]
    omega
  have low : isLow (0xdc00 + (c.toNat - 0x10000) % 0x400) = true := by
    simp only [isLow, Bool.and_eq_true, decide_eq_true_eq]
    omega
  have whole : paired (0xd800 + (c.toNat - 0x10000) / 0x400)
      (0xdc00 + (c.toNat - 0x10000) % 0x400) = c := by
    have sum : 0x10000 + (0xd800 + (c.toNat - 0x10000) / 0x400 - 0xd800) * 0x400 +
        (0xdc00 + (c.toNat - 0x10000) % 0x400 - 0xdc00) = c.toNat := by omega
    rw [paired, sum, Char.ofNat_toNat]
  change join? (.unit _ :: .unit _ :: others) = _
  rw [join?, if_pos high, if_pos low, joined, whole]
  rfl

end Piece

/-- However it is spelled, a character is read. -/
theorem Spells.read {c : Char} {written : List Char} (spells : Spells c written) :
    ∃ pieces, Piece.Reads written pieces ∧ Piece.Joins pieces c := by
  cases spells with
  | plain uncontrolled unquoted unescaped =>
      exact ⟨_, Piece.reads_plain uncontrolled unquoted unescaped, Piece.joins_char c⟩
  | short listed => exact ⟨_, Piece.reads_short listed, Piece.joins_char c⟩
  | unit four number =>
      have small := number.lt
      rw [four] at small
      exact ⟨_, Piece.reads_unit four number, Piece.joins_unit small⟩
  | pair large four front four' back =>
      exact ⟨_, Piece.reads_pair four front four' back, Piece.joins_pair large⟩

/-- However it is spelled, a text is read up to its closing quote. -/
theorem Spelling.read {content text : List Char} (spelling : Spelling content text)
    (later : List Char) : readQuoted? (text ++ '"' :: later) = some (content, later) := by
  have pieces : ∃ pieces, Piece.read? (text ++ '"' :: later) = some (pieces, later) ∧
      Piece.join? pieces = some content := by
    induction spelling with
    | nil => exact ⟨[], rfl, rfl⟩
    | cons first rest ih =>
        obtain ⟨others, read, joined⟩ := ih
        obtain ⟨pieces, reads, joins⟩ := first.read
        rw [List.append_assoc]
        exact ⟨pieces ++ others, reads read, joins joined⟩
  obtain ⟨pieces, read, joined⟩ := pieces
  simp only [readQuoted?, read, joined, Option.bind_eq_bind, Option.bind_some, Option.pure_def]

end SelfIsolation.Document
