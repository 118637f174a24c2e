/-!
# Decimal numerals

Unsigned decimal numerals as identifiers, prefixes and configuration values are
written: ASCII digits after an optional `+`, leading zeros allowed, no blanks,
and a value no larger than the width of the target allows.

The digits are read left to right. A character that is not a digit is refused
where it stands, and a value that outgrows the bound is refused at the digit
that makes it too large, so of two faults the first one in the text decides.

- `Numeral.readUnsigned bound s` is the value of `s`, or why it has none.
- `NumeralError.message` words each refusal.
-/

namespace GeoAccess

/-- Why a text is no unsigned numeral within its bound. -/
inductive NumeralError where
  /-- The text is empty. -/
  | empty
  /-- A character is not a digit, or the sign stands alone. -/
  | invalidDigit
  /-- The value exceeds the bound. -/
  | tooLarge
  deriving DecidableEq, Repr

/-- The wording of a refused numeral. -/
def NumeralError.message : NumeralError → String
  | .empty => "cannot parse integer from empty string"
  | .invalidDigit => "invalid digit found in string"
  | .tooLarge => "number too large to fit in target type"

namespace Numeral

/-- The largest unsigned 64-bit value. -/
def u64Max : Nat := Nat.pow 2 64 - 1

/-- The largest unsigned 8-bit value. -/
def u8Max : Nat := 255

/-- The value of a digit `0`–`9`. -/
def digitValue (c : Char) : Nat := c.toNat - '0'.toNat

/-- Reads digits onto `acc`, refusing a non-digit or a value above `bound` at
the first character where either happens. -/
def readDigits (bound : Nat) : Nat → List Char → Except NumeralError Nat
  | acc, [] => .ok acc
  | acc, c :: cs =>
    if c.isDigit then
      if acc * 10 + digitValue c > bound then .error .tooLarge
      else readDigits bound (acc * 10 + digitValue c) cs
    else .error .invalidDigit

/-- The value of an unsigned numeral with an optional leading `+`, at most
`bound`. A lone sign is refused as a bad digit. -/
def readUnsignedChars (bound : Nat) : List Char → Except NumeralError Nat
  | [] => .error .empty
  | ['+'] => .error .invalidDigit
  | ['-'] => .error .invalidDigit
  | '+' :: rest => readDigits bound 0 rest
  | cs => readDigits bound 0 cs

/-- The value of an unsigned numeral text, at most `bound`. -/
def readUnsigned (bound : Nat) (s : String) : Except NumeralError Nat :=
  readUnsignedChars bound s.toList

/-- A value read is within its bound. -/
theorem readDigits_le {bound acc : Nat} {cs : List Char} {n : Nat} (hacc : acc ≤ bound)
    (h : readDigits bound acc cs = .ok n) : n ≤ bound := by
  induction cs generalizing acc with
  | nil => simp [readDigits] at h; omega
  | cons c cs ih =>
    simp only [readDigits] at h
    split at h
    · split at h
      · cases h
      · exact ih (by omega) h
    · cases h

example : readUnsigned u64Max "+5" = .ok 5 := by rfl
example : readUnsigned u64Max "-1" = .error .invalidDigit := by rfl
example : readUnsigned u64Max "" = .error .empty := by rfl
example : readUnsigned u8Max "256" = .error .tooLarge := by rfl

end Numeral

end GeoAccess
