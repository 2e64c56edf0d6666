import SelfIsolation.Text.Numeral

/-! # Quoted text

A string of a settings document is JSON: it ends at a quote, holds no control
characters, and may hold escapes. An escape by number gives a unit of UTF-16, so
that two of them may stand for one character. A unit that is half of a pair is no
text without the other half.
-/

namespace SelfIsolation.Document

/-- A part of a quoted text. -/
inductive Piece where
  /-- A character, written as it is or by a short escape. -/
  | char (c : Char)
  /-- A unit of UTF-16, written by its number. -/
  | unit (value : Nat)
  deriving DecidableEq

namespace Piece

/-- The character of a short escape. -/
def short? : Char → Option Char
  | '"' => some '"'
  | '\\' => some '\\'
  | '/' => some '/'
  | 'b' => some '\x08'
  | 'f' => some '\x0c'
  | 'n' => some '\n'
  | 'r' => some '\r'
  | 't' => some '\t'
  | _ => none

/-- Holds of characters that stand for themselves: all but controls, the quote and the backslash. -/
def isPlain (c : Char) : Bool := ' ' ≤ c && c ≠ '"' && c ≠ '\\'

/-- Holds of the first halves of pairs. -/
def isHigh (value : Nat) : Bool := 0xd800 ≤ value && value < 0xdc00

/-- Holds of the second halves of pairs. -/
def isLow (value : Nat) : Bool := 0xdc00 ≤ value && value < 0xe000

/-- The character that a pair stands for. -/
def paired (high low : Nat) : Char :=
  Char.ofNat (0x10000 + (high - 0xd800) * 0x400 + (low - 0xdc00))

/-- The text that pieces make up. -/
def join? : List Piece → Option (List Char)
  | [] => some []
  | .char c :: pieces => (join? pieces).map (c :: ·)
  | .unit high :: .unit low :: pieces =>
    if isHigh high then
      if isLow low then (join? pieces).map (paired high low :: ·) else none
    else if isLow high then none
    else (join? (.unit low :: pieces)).map (Char.ofNat high :: ·)
  | .unit value :: pieces =>
    if isHigh value || isLow value then none
    else (join? pieces).map (Char.ofNat value :: ·)

/-- Puts a piece before those already read. -/
def onto (piece : Piece) : Option (List Piece × List Char) → Option (List Piece × List Char) :=
  Option.map fun (pieces, later) => (piece :: pieces, later)

/-- A piece is put in front of what is read after it. -/
theorem onto_eq_some_iff {piece : Piece} {read : Option (List Piece × List Char)}
    {pieces : List Piece} {later : List Char} :
    onto piece read = some (pieces, later) ↔
      ∃ others, read = some (others, later) ∧ pieces = piece :: others := by
  cases read with
  | none => simp [onto]
  | some _ => simp [onto, Prod.ext_iff]; grind

/-- Reads pieces up to the closing quote, and gives what follows it as well. -/
def read? : List Char → Option (List Piece × List Char)
  | '"' :: rest => some ([], rest)
  | '\\' :: 'u' :: a :: b :: c :: d :: rest =>
    match Numeral.readHexadecimal? [a, b, c, d] with
    | some value => onto (.unit value) (read? rest)
    | none => none
  | '\\' :: c :: rest =>
    match short? c with
    | some plain => onto (.char plain) (read? rest)
    | none => none
  | c :: rest => if isPlain c then onto (.char c) (read? rest) else none
  | [] => none

/-- What follows a quoted text is shorter. -/
theorem length_lt_of_read? {text later : List Char} {pieces : List Piece}
    (h : read? text = some (pieces, later)) : later.length < text.length := by
  fun_induction read? text generalizing pieces with
  | case1 => grind
  | case2 a b c d rest value _ ih =>
    obtain ⟨_, read, _⟩ := onto_eq_some_iff.1 h
    have := ih read
    simp only [List.length_cons]
    omega
  | case3 => cases h
  | case4 c rest _ plain _ ih =>
    obtain ⟨_, read, _⟩ := onto_eq_some_iff.1 h
    have := ih read
    simp only [List.length_cons]
    omega
  | case5 => cases h
  | case6 c rest _ _ _ _ ih =>
    obtain ⟨_, read, _⟩ := onto_eq_some_iff.1 h
    have := ih read
    simp only [List.length_cons]
    omega
  | case7 => cases h
  | case8 => cases h

end Piece

/-- Reads a quoted text after its opening quote, and gives what follows it as well. -/
def readQuoted? (text : List Char) : Option (List Char × List Char) := do
  let (pieces, later) ← Piece.read? text
  return (← Piece.join? pieces, later)

/-- What follows a quoted text is shorter. -/
theorem length_lt_of_readQuoted? {text content later : List Char}
    (h : readQuoted? text = some (content, later)) : later.length < text.length := by
  simp only [readQuoted?, Option.bind_eq_bind, Option.bind_eq_some_iff, Option.pure_def,
    Option.some.injEq, Prod.mk.injEq] at h
  obtain ⟨⟨pieces, rest⟩, read, _, _, _, rfl⟩ := h
  exact Piece.length_lt_of_read? read

end SelfIsolation.Document
