import GeoAccess.Text.Printable

/-!
# Quoted text

A text shown inside double quotes so that it can be read back unambiguously:
the quote and the backslash get a backslash, tab, carriage return, line feed
and NUL their short escapes, and a character that would not show by itself
gets a `\u{…}` escape with its code point in lower-case hexadecimal: one
that continues the character before it (`isGraphemeExtend`), wherever it
stands, and one that leaves no mark of its own (`isUnprintable`). Everything
else, any letter of any script included, is written as it is.

- `quote s` is `s` between double quotes, escaped as above.
- `escapesAsCodePoint c` says which characters get the `\u{…}` escape.
-/

namespace GeoAccess.Text

/-- The characters written as their code point. -/
def escapesAsCodePoint (c : Char) : Bool := isGraphemeExtend c || isUnprintable c

/-- Lower-case hexadecimal digits of a number, without leading zeros. -/
def hexDigits (n : Nat) : String :=
  String.ofList (Nat.toDigits 16 n)

/-- The escaped form of one character inside a quoted text. -/
def escapeChar (c : Char) : String :=
  if c = '"' then "\\\""
  else if c = '\\' then "\\\\"
  else if c = '\t' then "\\t"
  else if c = '\r' then "\\r"
  else if c = '\n' then "\\n"
  else if c = '\x00' then "\\0"
  else if escapesAsCodePoint c then "\\u" ++ "\x7b" ++ hexDigits c.toNat ++ "\x7d"
  else c.toString

/-- A text between double quotes with its special characters escaped. -/
def quote (s : String) : String :=
  "\"" ++ String.join (s.toList.map escapeChar) ++ "\""

example : quote "multi word \"quoted\"" = "\"multi word \\\"quoted\\\"\"" := by decide +kernel
example : quote "ü" = "\"ü\"" := by decide +kernel
example : quote "a\u0483b" = "\"a\\u\x7b483\x7db\"" := by decide +kernel

end GeoAccess.Text
