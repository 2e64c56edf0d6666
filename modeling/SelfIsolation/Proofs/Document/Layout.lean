import Mathlib.Data.List.Chain
import SelfIsolation.Document.Token
import SelfIsolation.Proofs.Document.Spelling

/-! # Layouts of documents

A token can be written in several ways (`SelfIsolation.Document.Lexeme`), and white
space may stand before every token and at the end
(`SelfIsolation.Document.Layout`). Where no two numbers follow each other, the tokens
are read back from every layout (`SelfIsolation.Document.Layout.scan`).
-/

namespace SelfIsolation.Document

open Numeral (Decimal)

/-- The ways to write a token. A number is written without needless zeros in front. -/
inductive Lexeme : Token → List Char → Prop
  | openBrace : Lexeme .openBrace ['{']
  | closeBrace : Lexeme .closeBrace ['}']
  | openBracket : Lexeme .openBracket ['[']
  | closeBracket : Lexeme .closeBracket [']']
  | colon : Lexeme .colon [':']
  | comma : Lexeme .comma [',']
  | null : Lexeme .null ['n', 'u', 'l', 'l']
  | yes : Lexeme (.truth true) ['t', 'r', 'u', 'e']
  | no : Lexeme (.truth false) ['f', 'a', 'l', 's', 'e']
  | natural {n : Nat} {digits : List Char} (written : Decimal digits n)
      (unpadded : digits.head? = some '0' → digits.length = 1) : Lexeme (.number n) digits
  | negative {n : Nat} {digits : List Char} (written : Decimal digits n)
      (unpadded : digits.head? = some '0' → digits.length = 1) (positive : 0 < n) :
      Lexeme (.number (-(n : Int))) ('-' :: digits)
  | quoted {content : String} {text : List Char} (spelling : Spelling content.toList text) :
      Lexeme (.quoted content) ('"' :: (text ++ ['"']))

/-- White space. -/
def Gap (space : List Char) : Prop :=
  ∀ c ∈ space, c = ' ' ∨ c = '\n' ∨ c = '\t' ∨ c = '\r'

/-- The ways to write tokens one after another. -/
inductive Layout : List Token → List Char → Prop
  | nil {space : List Char} (gap : Gap space) : Layout [] space
  | cons {space written text : List Char} {token : Token} {tokens : List Token}
      (gap : Gap space) (lexeme : Lexeme token written) (rest : Layout tokens text) :
      Layout (token :: tokens) (space ++ written ++ text)

/-- Every token can be written. -/
theorem exists_lexeme (token : Token) : ∃ written, Lexeme token written := by
  have decimal : ∀ n, Decimal (Numeral.decimal n) n := fun n =>
    Numeral.readDecimal?_eq_some_iff.mp (Numeral.readDecimal?_decimal n)
  have unpadded : ∀ n, (Numeral.decimal n).head? = some '0' → (Numeral.decimal n).length = 1 := by
    intro n zero
    rw [Numeral.eq_zero_of_head?_decimal n zero]
    rfl
  cases token with
  | openBrace => exact ⟨_, .openBrace⟩
  | closeBrace => exact ⟨_, .closeBrace⟩
  | openBracket => exact ⟨_, .openBracket⟩
  | closeBracket => exact ⟨_, .closeBracket⟩
  | colon => exact ⟨_, .colon⟩
  | comma => exact ⟨_, .comma⟩
  | null => exact ⟨_, .null⟩
  | truth value =>
      cases value with
      | true => exact ⟨_, .yes⟩
      | false => exact ⟨_, .no⟩
  | number value =>
      cases value with
      | ofNat n => exact ⟨_, .natural (decimal n) (unpadded n)⟩
      | negSucc n => exact ⟨_, .negative (decimal (n + 1)) (unpadded _) (Nat.succ_pos n)⟩
  | quoted content =>
      obtain ⟨text, spelling⟩ := exists_spelling content.toList
      exact ⟨_, .quoted spelling⟩

/-- Tokens can always be laid out. -/
theorem exists_layout (tokens : List Token) : ∃ text, Layout tokens text := by
  have tight : Gap [] := nofun
  induction tokens with
  | nil => exact ⟨[], .nil tight⟩
  | cons token tokens ih =>
      obtain ⟨written, lexeme⟩ := exists_lexeme token
      obtain ⟨text, layout⟩ := ih
      exact ⟨_, .cons tight lexeme layout⟩

/-! ## Reading a token -/

/-- A text that does not go on with a digit. -/
def Undigited (text : List Char) : Prop := ∀ c ∈ text.head?, c.isDigit = false

namespace Token

/-- Holds of numbers, which end only where no digit follows. -/
def isNumber : Token → Bool
  | number _ => true
  | _ => false

/-- Digits end where no digit follows. -/
theorem takeWhile_digits {digits later : List Char} (all : digits.all Char.isDigit = true)
    (ends : Undigited later) :
    (digits ++ later).takeWhile Char.isDigit = digits ∧
      (digits ++ later).dropWhile Char.isDigit = later := by
  have stop : later.takeWhile Char.isDigit = [] ∧ later.dropWhile Char.isDigit = later := by
    cases later with
    | nil => exact ⟨rfl, rfl⟩
    | cons c later =>
        have nondigit := ends c rfl
        exact ⟨List.takeWhile_cons_of_neg (by simp [nondigit]),
          List.dropWhile_cons_of_neg (by simp [nondigit])⟩
  have each := List.all_eq_true.mp all
  rw [List.takeWhile_append_of_pos each, List.dropWhile_append_of_pos each, stop.1, stop.2,
    List.append_nil]
  exact ⟨rfl, rfl⟩

/-- A number is read up to where no digit follows. -/
theorem readDigits?_append {n : Nat} {digits later : List Char} (written : Decimal digits n)
    (unpadded : digits.head? = some '0' → digits.length = 1) (ends : Undigited later) :
    readDigits? (digits ++ later) = some (n, later) := by
  obtain ⟨front, back⟩ := takeWhile_digits written.digits.2.1 ends
  have short : ¬ (digits.head? = some '0' ∧ digits.length ≠ 1) := fun ⟨zero, long⟩ =>
    long (unpadded zero)
  rw [readDigits?, front, back, if_neg short, Numeral.readDecimal?_eq_some_iff.mpr written,
    Option.map_some]

/-- A token that starts with a digit is a number. -/
theorem read?_digit {c : Char} (digit : c.isDigit = true) (rest : List Char) :
    read? c rest =
      (readDigits? (c :: rest)).map fun (value, later) => (.number value, later) := by
  obtain ⟨d, rfl⟩ := Numeral.exists_digitChar digit
  match d with
  | 0 | 1 | 2 | 3 | 4 | 5 | 6 | 7 | 8 | 9 => rfl

/-- A token that starts with a minus sign is a negative number. -/
theorem read?_minus {n : Nat} {text later : List Char} (read : readDigits? text = some (n, later))
    (positive : 0 < n) : read? '-' text = some (.number (-(n : Int)), later) := by
  rw [read?.eq_11, read]
  exact if_neg (Nat.ne_of_gt positive)

/-- A digit is no white space. -/
theorem solid_digit {c : Char} (digit : c.isDigit = true) : isSpace c = false := by
  have each : ∀ d : Fin 10, isSpace d.val.digitChar = false := by decide
  obtain ⟨d, rfl⟩ := Numeral.exists_digitChar digit
  exact each d

end Token

/-- Every lexeme is read, where what follows is not taken for a part of it. -/
theorem Lexeme.read {token : Token} {written : List Char} (lexeme : Lexeme token written)
    {later : List Char} (ends : token.isNumber = true → Undigited later) :
    ∃ c rest, written = c :: rest ∧ Token.isSpace c = false ∧
      Token.read? c (rest ++ later) = some (token, later) := by
  cases lexeme with
  | openBrace => exact ⟨_, _, rfl, rfl, rfl⟩
  | closeBrace => exact ⟨_, _, rfl, rfl, rfl⟩
  | openBracket => exact ⟨_, _, rfl, rfl, rfl⟩
  | closeBracket => exact ⟨_, _, rfl, rfl, rfl⟩
  | colon => exact ⟨_, _, rfl, rfl, rfl⟩
  | comma => exact ⟨_, _, rfl, rfl, rfl⟩
  | null => exact ⟨_, _, rfl, rfl, rfl⟩
  | yes => exact ⟨_, _, rfl, rfl, rfl⟩
  | no => exact ⟨_, _, rfl, rfl, rfl⟩
  | natural digits unpadded =>
      have read := Token.readDigits?_append digits unpadded (ends rfl)
      obtain ⟨nonempty, all, -⟩ := digits.digits
      obtain ⟨c, rest, rfl⟩ := List.exists_cons_of_ne_nil nonempty
      have digit : c.isDigit = true := List.all_eq_true.mp all c List.mem_cons_self
      refine ⟨c, rest, rfl, Token.solid_digit digit, ?_⟩
      rw [Token.read?_digit digit]
      exact congrArg (Option.map _) read
  | @negative n _ digits unpadded positive =>
      have read := Token.readDigits?_append digits unpadded (ends rfl)
      exact ⟨'-', _, rfl, rfl, Token.read?_minus read positive⟩
  | quoted spelling =>
      refine ⟨'"', _, rfl, rfl, ?_⟩
      rw [List.append_assoc, List.singleton_append]
      change (readQuoted? _).map _ = _
      rw [spelling.read, Option.map_some]
      dsimp only
      rw [String.ofList_toList]

/-- No other token starts with a digit. -/
theorem Lexeme.undigited {token : Token} {written : List Char} (lexeme : Lexeme token written)
    (other : token.isNumber = false) : ∃ c rest, written = c :: rest ∧ c.isDigit = false := by
  cases lexeme with
  | natural => cases other
  | negative => cases other
  | _ => exact ⟨_, _, rfl, rfl⟩

/-! ## Reading a layout -/

namespace Token

theorem isSpace_of_gap {space : List Char} (gap : Gap space) {c : Char} (member : c ∈ space) :
    isSpace c = true := by
  rcases gap c member with rfl | rfl | rfl | rfl <;> rfl

/-- Reading tokens skips white space and goes on with a token. -/
theorem scan?_eq (text : List Char) : scan? text =
    match text.dropWhile isSpace with
    | [] => some []
    | c :: rest => (read? c rest).bind fun (token, later) => (scan? later).map (token :: ·) := by
  rw [scan?]
  split
  case h_1 start => rw [start]
  case h_2 c rest start =>
    rw [start]
    dsimp only
    split
    case h_1 token later read => rw [read, Option.bind_some]
    case h_2 read => rw [read, Option.bind_none]

/-- A gap before tokens is skipped. -/
theorem scan?_gap {space : List Char} (gap : Gap space) (text : List Char) :
    scan? (space ++ text) = scan? text := by
  rw [scan?_eq, List.dropWhile_append_of_pos fun c member => isSpace_of_gap gap member,
    ← scan?_eq]

/-- After a token that was read the others are read alike. -/
theorem scan?_cons {c : Char} {rest later : List Char} {token : Token}
    (solid : isSpace c = false) (read : read? c rest = some (token, later)) :
    scan? (c :: rest) = (scan? later).map (token :: ·) := by
  rw [scan?_eq, List.dropWhile_cons_of_neg (by rw [solid]; exact Bool.false_ne_true)]
  dsimp only
  rw [read, Option.bind_some]

end Token

/-- No two numbers follow each other. -/
def Apart (tokens : List Token) : Prop :=
  tokens.IsChain fun token next => ¬ (token.isNumber = true ∧ next.isNumber = true)

/-- White space does not go on with a digit. -/
theorem undigited_append {space text : List Char} (gap : Gap space) (solid : Undigited text) :
    Undigited (space ++ text) := by
  cases space with
  | nil => exact solid
  | cons c space =>
      intro first member
      cases member
      rcases gap c List.mem_cons_self with rfl | rfl | rfl | rfl <;> rfl

/-- What follows a number does not go on with a digit. -/
theorem Layout.undigited {tokens : List Token} {text : List Char} (layout : Layout tokens text)
    (other : ∀ token ∈ tokens.head?, token.isNumber = false) : Undigited text := by
  cases layout with
  | nil gap =>
      rw [← List.append_nil text]
      exact undigited_append gap fun c member => nomatch member
  | cons gap lexeme rest =>
      obtain ⟨c, others, rfl, nondigit⟩ := lexeme.undigited (other _ rfl)
      rw [List.append_assoc]
      refine undigited_append gap fun first member => ?_
      cases member
      exact nondigit

/-- The tokens are read back from every layout. -/
theorem Layout.scan {tokens : List Token} {text : List Char} (layout : Layout tokens text)
    (apart : Apart tokens) : Token.scan? text = some tokens := by
  induction layout with
  | @nil space gap =>
      have scanned := Token.scan?_gap gap []
      rw [List.append_nil] at scanned
      rw [scanned, Token.scan?_eq]
      rfl
  | @cons space written text token tokens gap lexeme rest ih =>
      obtain ⟨here, there⟩ := List.isChain_cons.mp apart
      have ends : token.isNumber = true → Undigited text := fun number =>
        rest.undigited fun next follows =>
          Bool.eq_false_iff.mpr fun other => here next follows ⟨number, other⟩
      obtain ⟨c, others, rfl, solid, read⟩ := lexeme.read ends
      rw [List.append_assoc, Token.scan?_gap gap, List.cons_append,
        Token.scan?_cons solid read, ih there, Option.map_some]

end SelfIsolation.Document
