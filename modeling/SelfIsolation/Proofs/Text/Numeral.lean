import Mathlib.Algebra.Group.Nat.Defs
import Mathlib.Data.List.Induction
import SelfIsolation.Text.Numeral

/-! # Reading written numerals

A number is read back from its decimal digits
(`SelfIsolation.Numeral.readDecimal?_decimal`) and from its hexadecimal digits
(`SelfIsolation.Numeral.readHexadecimal?_hexadecimal`). Written digits have no
leading zero and are as few as the number allows. What is read as a numeral is
decimal notation, of any length and whatever number it denotes
(`SelfIsolation.Numeral.readDecimal?_eq_some_iff`).
-/

namespace SelfIsolation.Numeral

/-- What is read item by item has a reading of each item. -/
theorem exists_of_mapM {α β : Type} {read? : α → Option β} {items : List α} {values : List β}
    (read : items.mapM read? = some values) {item : α} (member : item ∈ items) :
    ∃ value, read? item = some value := by
  induction items generalizing values with
  | nil => cases member
  | cons first rest ih =>
      rw [List.mapM_cons] at read
      obtain ⟨value, here, read⟩ := Option.bind_eq_some_iff.mp read
      obtain ⟨others, there, -⟩ := Option.bind_eq_some_iff.mp read
      rcases List.mem_cons.mp member with rfl | later
      · exact ⟨value, here⟩
      · exact ih there later

/-- Items are read back from what was written for each of them. -/
theorem mapM_of_reads {α β : Type} {read? : β → Option α} {write : α → β}
    (reads : ∀ item, read? (write item) = some item) (items : List α) :
    (items.map write).mapM read? = some items := by
  have each : read? ∘ write = some := funext reads
  rw [List.mapM_map, each]
  exact List.mapM_pure.trans (congrArg some (List.map_id _))

/-! ## Decimal digits -/

theorem isDigit_of_mem_decimal {n : Nat} {c : Char} (member : c ∈ decimal n) : c.isDigit = true :=
  Nat.isDigit_of_mem_toDigits (by decide) (by decide) member

/-- A number is read back from its decimal digits. -/
theorem readDecimal?_decimal (n : Nat) : readDecimal? (decimal n) = some n := by
  have digits : (decimal n).all Char.isDigit = true :=
    List.all_eq_true.mpr fun c member => isDigit_of_mem_decimal member
  rw [readDecimal?, if_pos ⟨Nat.toDigits_ne_nil, digits⟩]
  exact congrArg some Nat.ofDigitChars_ten_toDigits

/-- A number below a power of ten has no more digits than that. -/
theorem length_decimal_le {n count : Nat} (positive : 0 < count) (small : n < 10 ^ count) :
    (decimal n).length ≤ count :=
  (Nat.length_toDigits_le_iff (by decide) positive).mpr small

/-- Only zero is written with a zero in front. -/
theorem eq_zero_of_head?_decimal (n : Nat) (zero : (decimal n).head? = some '0') : n = 0 := by
  induction n using Nat.strongRecOn with
  | _ n ih =>
      rw [decimal, Nat.toDigits_eq_if (by decide)] at zero
      by_cases single : n < 10
      · rw [if_pos single, List.head?_cons, Option.some.injEq] at zero
        exact Nat.digitChar_eq_zero.mp zero
      · -- A longer numeral starts as the numeral of its front does, which is not zero.
        rw [if_neg single, List.head?_append] at zero
        cases first : (Nat.toDigits 10 (n / 10)).head? with
        | none => exact absurd (List.head?_eq_none_iff.mp first) Nat.toDigits_ne_nil
        | some c =>
            rw [first, Option.some_or] at zero
            have front : n / 10 = 0 := ih (n / 10) (by omega) (first.trans zero)
            omega

/-- What is read as a number consists of digits. -/
theorem isDigit_of_readDecimal? {text : List Char} {n : Nat} (read : readDecimal? text = some n)
    {c : Char} (member : c ∈ text) : c.isDigit = true := by
  rw [readDecimal?] at read
  split at read
  case isTrue digits => exact List.all_eq_true.mp digits.2 c member
  case isFalse => cases read

/-! ## Decimal notation -/

/-- Decimal notation. Each further digit multiplies what stands before it by ten, so zeros in front
count nothing. -/
inductive Decimal : List Char → Nat → Prop
  | digit (d : Fin 10) : Decimal [d.val.digitChar] d
  | append {text : List Char} {n : Nat} (front : Decimal text n) (d : Fin 10) :
      Decimal (text ++ [d.val.digitChar]) (10 * n + d)

/-- A digit is that of a number below ten. -/
theorem exists_digitChar {c : Char} (digit : c.isDigit = true) :
    ∃ d : Fin 10, d.val.digitChar = c := by
  have each : ∀ d : Fin 10, d.val.digitChar = Char.ofNat (48 + d.val) := by decide
  have bounds : 48 ≤ c.toNat ∧ c.toNat ≤ 57 := Char.isDigit_iff_toNat.mp digit
  refine ⟨⟨c.toNat - 48, by omega⟩, ?_⟩
  rw [each, Nat.add_sub_cancel' bounds.1, Char.ofNat_toNat]

theorem toNat_digitChar (d : Fin 10) : d.val.digitChar.toNat - '0'.toNat = d := by
  revert d
  decide

/-- A digit more multiplies the number before it by ten. -/
theorem ofDigitChars_append_digit (text : List Char) (d : Fin 10) :
    Nat.ofDigitChars 10 (text ++ [d.val.digitChar]) 0 = 10 * Nat.ofDigitChars 10 text 0 + d := by
  rw [Nat.ofDigitChars_append, Nat.ofDigitChars_cons, Nat.ofDigitChars_nil, toNat_digitChar]

/-- Decimal notation consists of digits, at least one, which denote the number. -/
theorem Decimal.digits {text : List Char} {n : Nat} (written : Decimal text n) :
    text ≠ [] ∧ text.all Char.isDigit = true ∧ Nat.ofDigitChars 10 text 0 = n := by
  have isDigit : ∀ d : Fin 10, d.val.digitChar.isDigit = true := by decide
  induction written with
  | digit d =>
      have value := ofDigitChars_append_digit [] d
      rw [List.nil_append, Nat.ofDigitChars_nil, Nat.mul_zero, Nat.zero_add] at value
      exact ⟨List.cons_ne_nil _ _, by simp [isDigit], value⟩
  | append front d ih =>
      obtain ⟨-, digits, value⟩ := ih
      refine ⟨List.append_ne_nil_of_right_ne_nil _ (List.cons_ne_nil _ _), ?_, ?_⟩
      · rw [List.all_append, digits, List.all_cons, isDigit]
        rfl
      · rw [ofDigitChars_append_digit, value]

/-- Decimal notation denotes one number only. -/
theorem Decimal.unique {text : List Char} {m n : Nat} (left : Decimal text m)
    (right : Decimal text n) : m = n :=
  left.digits.2.2.symm.trans right.digits.2.2

/-- Digits are decimal notation of the number that they denote. -/
theorem decimal_ofDigitChars {text : List Char} (nonempty : text ≠ [])
    (digits : text.all Char.isDigit = true) : Decimal text (Nat.ofDigitChars 10 text 0) := by
  induction text using List.reverseRecOn with
  | nil => exact absurd rfl nonempty
  | append_singleton front c ih =>
      rw [List.all_append, Bool.and_eq_true, List.all_cons, List.all_nil, Bool.and_true] at digits
      obtain ⟨d, rfl⟩ := exists_digitChar digits.2
      rw [ofDigitChars_append_digit]
      cases front with
      | nil => simpa using Decimal.digit d
      | cons first rest => exact .append (ih (List.cons_ne_nil _ _) digits.1) d

/-- The reader accepts decimal notation and nothing else. -/
theorem readDecimal?_eq_some_iff {text : List Char} {n : Nat} :
    readDecimal? text = some n ↔ Decimal text n := by
  constructor
  · intro read
    rw [readDecimal?] at read
    split at read
    case isTrue digits =>
        rw [← Option.some.inj read]
        exact decimal_ofDigitChars digits.1 digits.2
    case isFalse => cases read
  · intro written
    obtain ⟨nonempty, digits, value⟩ := written.digits
    rw [readDecimal?, if_pos ⟨nonempty, digits⟩, value]

/-! ## Signed numerals -/

/-- A number is not written with anything but a digit in front. -/
theorem decimal_ne_cons (n : Nat) (rest : List Char) {c : Char} (nondigit : c.isDigit = false) :
    decimal n ≠ c :: rest := by
  intro same
  have digit : c.isDigit = true := isDigit_of_mem_decimal (same ▸ List.mem_cons_self)
  rw [nondigit] at digit
  cases digit

/-- A number is read back where a sign might stand. -/
theorem readSigned?_decimal (n : Nat) : readSigned? (decimal n) = some (n : Int) := by
  rw [readSigned?, readDecimal?_decimal]
  · rfl
  · exact fun rest => decimal_ne_cons n rest rfl
  · exact fun rest => decimal_ne_cons n rest rfl

/-- A natural number is read back from its text. -/
theorem readInt32?_toString {value : Int32} (natural : 0 ≤ value) :
    readInt32? (toString value).toList = some value := by
  have small := value.toInt_le
  have large := value.minValue_le_toInt
  have nonneg : 0 ≤ value.toInt := Int32.le_iff_toInt_le.mp natural
  obtain ⟨n, same⟩ := Int.eq_ofNat_of_zero_le nonneg
  have written : (toString value).toList = decimal n := by
    change (toString value.toInt).toList = _
    rw [same]
    change (Nat.repr n).toList = _
    rw [Nat.repr]
    exact String.toList_ofList
  have bounded : Int32.minValue.toInt ≤ value.toInt ∧ value.toInt ≤ Int32.maxValue.toInt :=
    ⟨large, small⟩
  rw [readInt32?, written, readSigned?_decimal, ← same]
  simp only [Option.bind_eq_bind, Option.bind_some]
  rw [if_pos bounded, Int32.ofInt_toInt]

/-! ## Hexadecimal digits -/

/-- A hexadecimal digit is read back. -/
theorem hexDigit?_digitChar {digit : Nat} (small : digit < 16) :
    hexDigit? digit.digitChar = some digit := by
  have each : ∀ digit : Fin 16, hexDigit? digit.val.digitChar = some digit.val := by decide
  exact each ⟨digit, small⟩

/-- The digits of hexadecimal notation, in either case. -/
inductive HexDigit : Char → Nat → Prop
  | lower (d : Fin 16) : HexDigit d.val.digitChar d
  | upper (d : Fin 16) : HexDigit d.val.digitChar.toUpper d

/-- Hexadecimal notation, of any length. -/
inductive Hexadecimal : List Char → Nat → Prop
  | nil : Hexadecimal [] 0
  | append {text : List Char} {n d : Nat} {c : Char} (front : Hexadecimal text n)
      (digit : HexDigit c d) : Hexadecimal (text ++ [c]) (16 * n + d)

/-- A hexadecimal digit is read as its value. -/
theorem HexDigit.read {c : Char} {d : Nat} (digit : HexDigit c d) : hexDigit? c = some d := by
  have upper : ∀ d : Fin 16, hexDigit? d.val.digitChar.toUpper = some d.val := by decide
  cases digit with
  | lower d => exact hexDigit?_digitChar d.isLt
  | upper d => exact upper d

/-- A hexadecimal digit has a value below sixteen. -/
theorem HexDigit.lt {c : Char} {d : Nat} (digit : HexDigit c d) : d < 16 := by
  cases digit with
  | lower d => exact d.isLt
  | upper d => exact d.isLt

/-- Hexadecimal notation consists of digits, which denote the number. -/
theorem Hexadecimal.digits {text : List Char} {n : Nat} (written : Hexadecimal text n) :
    ∃ digits, text.mapM hexDigit? = some digits ∧
      digits.foldl (fun value digit => 16 * value + digit) 0 = n := by
  induction written with
  | nil => exact ⟨[], rfl, rfl⟩
  | @append _ _ d _ front digit ih =>
      obtain ⟨digits, read, value⟩ := ih
      refine ⟨digits ++ [d], ?_, ?_⟩
      · simp only [List.mapM_append, read, List.mapM_cons, digit.read, List.mapM_nil,
          Option.pure_def, Option.bind_eq_bind, Option.bind_some]
      · rw [List.foldl_append, value, List.foldl_cons, List.foldl_nil]

/-- Hexadecimal notation is read as the number that it denotes. -/
theorem Hexadecimal.read {text : List Char} {n : Nat} (written : Hexadecimal text n)
    (nonempty : text ≠ []) : readHexadecimal? text = some n := by
  obtain ⟨digits, read, value⟩ := written.digits
  have nonempty : text.isEmpty = false := List.isEmpty_eq_false_iff.mpr nonempty
  simp only [readHexadecimal?, nonempty, Bool.false_eq_true, ↓reduceIte, read, Option.pure_def,
    Option.bind_eq_bind, Option.bind_some, value]

/-- A number is written in hexadecimal notation. -/
theorem hexadecimal_written (n : Nat) : Hexadecimal (hexadecimal n) n := by
  induction n using Nat.strongRecOn with
  | _ n ih =>
      rw [hexadecimal, Nat.toDigits_eq_if (by decide)]
      by_cases single : n < 16
      · have written := Hexadecimal.append .nil (.lower ⟨n, single⟩)
        rw [if_pos single]
        rwa [List.nil_append, Nat.mul_zero, Nat.zero_add] at written
      · have last : n % 16 < 16 := Nat.mod_lt _ (by decide)
        have written := Hexadecimal.append (ih (n / 16) (by omega)) (.lower ⟨n % 16, last⟩)
        rw [if_neg single]
        rwa [Nat.div_add_mod] at written

theorem readHexadecimal?_hexadecimal (n : Nat) :
    readHexadecimal? (hexadecimal n) = some n :=
  (hexadecimal_written n).read Nat.toDigits_ne_nil

/-- Hexadecimal notation denotes a number below a power of sixteen. -/
theorem Hexadecimal.lt {text : List Char} {n : Nat} (written : Hexadecimal text n) :
    n < 16 ^ text.length := by
  induction written with
  | nil => decide
  | append front digit ih =>
      have small := digit.lt
      rw [List.length_append, List.length_singleton, Nat.pow_succ]
      omega

/-- A number below a power of sixteen has no more hexadecimal digits than that. -/
theorem length_hexadecimal_le {n count : Nat} (positive : 0 < count) (small : n < 16 ^ count) :
    (hexadecimal n).length ≤ count :=
  (Nat.length_toDigits_le_iff (by decide) positive).mpr small

/-- What is read as a hexadecimal number consists of hexadecimal digits. -/
theorem hexDigit?_of_readHexadecimal? {text : List Char} {n : Nat}
    (read : readHexadecimal? text = some n) {c : Char} (member : c ∈ text) :
    ∃ digit, hexDigit? c = some digit := by
  rw [readHexadecimal?] at read
  split at read
  case isTrue => cases read
  case isFalse =>
      obtain ⟨digits, found, -⟩ := Option.bind_eq_some_iff.mp read
      exact exists_of_mapM found member

end SelfIsolation.Numeral
