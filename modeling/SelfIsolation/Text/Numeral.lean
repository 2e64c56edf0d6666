/-! # Numerals

Decimal and hexadecimal text of natural numbers, and signed decimal text as
descriptor and identifier arguments use it. Writing never pads and uses lower
case; reading accepts leading zeros, and says `none` for anything that is not a
numeral.
-/

namespace SelfIsolation.Numeral

/-- The decimal digits of a number, most significant first. -/
def decimal (n : Nat) : List Char := Nat.toDigits 10 n

/-- The hexadecimal digits of a number in lower case, most significant first. -/
def hexadecimal (n : Nat) : List Char := Nat.toDigits 16 n

/-- The value of a non-empty run of decimal digits. -/
def readDecimal? (text : List Char) : Option Nat :=
  if text ≠ [] ∧ text.all Char.isDigit then some (Nat.ofDigitChars 10 text 0) else none

/-- The value of one hexadecimal digit, in either case. -/
def hexDigit? (c : Char) : Option Nat :=
  if '0' ≤ c ∧ c ≤ '9' then some (c.toNat - '0'.toNat)
  else if 'a' ≤ c ∧ c ≤ 'f' then some (c.toNat - 'a'.toNat + 10)
  else if 'A' ≤ c ∧ c ≤ 'F' then some (c.toNat - 'A'.toNat + 10)
  else none

/-- The value of a non-empty run of hexadecimal digits. -/
def readHexadecimal? (text : List Char) : Option Nat := do
  if text.isEmpty then none
  let digits ← text.mapM hexDigit?
  return digits.foldl (fun value digit => 16 * value + digit) 0

/-- A decimal numeral with at most one `+` before it, below `bound`. -/
def readUnsigned? (bound : Nat) (text : List Char) : Option Nat := do
  let value ← match text with
    | '+' :: digits => readDecimal? digits
    | digits => readDecimal? digits
  if value < bound then some value else none

/-- A decimal numeral with at most one sign before it. -/
def readSigned? : List Char → Option Int
  | '-' :: digits => (readDecimal? digits).map fun value => -(value : Int)
  | '+' :: digits => (readDecimal? digits).map Int.ofNat
  | digits => (readDecimal? digits).map Int.ofNat

/-- A signed decimal numeral that fits into 32 bits. -/
def readInt32? (text : List Char) : Option Int32 := do
  let value ← readSigned? text
  if Int32.minValue.toInt ≤ value ∧ value ≤ Int32.maxValue.toInt then some (Int32.ofInt value)
  else none

/-- A mask as text: `0x`, then its hexadecimal digits. -/
def mask (n : Nat) : String := String.ofList ('0' :: 'x' :: hexadecimal n)

end SelfIsolation.Numeral
