import SelfIsolation.Document.Quoted

/-! # Tokens of a settings document

A settings document is JSON. Its tokens are the signs of punctuation, the three
words, whole numbers and quoted texts; a fraction or an exponent is no token, as no
setting can have such a value. White space may stand between tokens.
-/

namespace SelfIsolation.Document

/-- A token of a settings document. -/
inductive Token where
  | openBrace
  | closeBrace
  | openBracket
  | closeBracket
  | colon
  | comma
  | null
  | truth (value : Bool)
  | number (value : Int)
  | quoted (content : String)
  deriving DecidableEq

namespace Token

/-- Holds of the characters that may stand between tokens. -/
def isSpace (c : Char) : Bool := c == ' ' || c == '\n' || c == '\t' || c == '\r'

/-- Reads a run of digits, which has no leading zero, and gives what follows it as well. -/
def readDigits? (text : List Char) : Option (Nat × List Char) :=
  let digits := text.takeWhile Char.isDigit
  if digits.head? = some '0' ∧ digits.length ≠ 1 then none
  else (Numeral.readDecimal? digits).map fun value => (value, text.dropWhile Char.isDigit)

/-- What follows a run of digits is shorter. -/
theorem length_lt_of_readDigits? {text later : List Char} {value : Nat}
    (h : readDigits? text = some (value, later)) : later.length < text.length := by
  simp only [readDigits?] at h
  split at h
  · cases h
  · obtain ⟨_, read, pair⟩ := Option.map_eq_some_iff.1 h
    have some_digit : text.takeWhile Char.isDigit ≠ [] := by
      intro none_left
      simp [none_left, Numeral.readDecimal?] at read
    have : later = text.dropWhile Char.isDigit := by simp_all
    have parts := congrArg List.length
      (List.takeWhile_append_dropWhile (p := Char.isDigit) (l := text))
    have := List.length_pos_iff.2 some_digit
    simp only [List.length_append] at parts
    subst later
    omega

/-- Reads the token that starts with the given character, and gives what follows it as well.
Negative zero is no whole number. -/
def read? : Char → List Char → Option (Token × List Char)
  | '{', rest => some (.openBrace, rest)
  | '}', rest => some (.closeBrace, rest)
  | '[', rest => some (.openBracket, rest)
  | ']', rest => some (.closeBracket, rest)
  | ':', rest => some (.colon, rest)
  | ',', rest => some (.comma, rest)
  | 'n', 'u' :: 'l' :: 'l' :: rest => some (.null, rest)
  | 't', 'r' :: 'u' :: 'e' :: rest => some (.truth true, rest)
  | 'f', 'a' :: 'l' :: 's' :: 'e' :: rest => some (.truth false, rest)
  | '"', rest =>
    (readQuoted? rest).map fun (content, later) => (.quoted (String.ofList content), later)
  | '-', rest =>
    match readDigits? rest with
    | some (value, later) => if value = 0 then none else some (.number (-(value : Int)), later)
    | none => none
  | c, rest => (readDigits? (c :: rest)).map fun (value, later) => (.number value, later)

/-- What follows a token is no longer than what follows its first character. -/
theorem length_le_of_read? {c : Char} {rest later : List Char} {token : Token}
    (h : read? c rest = some (token, later)) : later.length ≤ rest.length := by
  unfold read? at h
  split at h
  case h_10 =>
    obtain ⟨_, read, pair⟩ := Option.map_eq_some_iff.1 h
    have := length_lt_of_readQuoted? read
    grind
  case h_11 =>
    split at h
    case h_1 read =>
      have := length_lt_of_readDigits? read
      grind
    case h_2 => cases h
  case h_12 =>
    obtain ⟨_, read, pair⟩ := Option.map_eq_some_iff.1 h
    have := length_lt_of_readDigits? read
    grind
  all_goals grind

set_option linter.unusedVariables false in
/-- The tokens of a text. -/
def scan? (text : List Char) : Option (List Token) :=
  match start : text.dropWhile isSpace with
  | [] => some []
  | c :: rest =>
    match read : read? c rest with
    | some (token, later) => (scan? later).map (token :: ·)
    | none => none
termination_by text.length
decreasing_by
  have tail : (c :: rest).length ≤ text.length := start ▸ (List.dropWhile_sublist _).length_le
  have := length_le_of_read? read
  simp only [List.length_cons] at tail
  omega

end Token

end SelfIsolation.Document
