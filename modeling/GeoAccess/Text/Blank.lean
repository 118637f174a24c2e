/-!
# Blank characters

The characters of the Unicode `White_Space` property, and trimming a text of
them at both ends. Address signatures, identifiers and source addresses are
read after such a trim, so a tab or a no-break space around them is ignored.

- `isBlank` is the property as a table of its 25 code points.
- `trimBlank` drops blanks at both ends and keeps everything between.
-/

namespace GeoAccess.Text

/-- A character of the Unicode `White_Space` property: the ASCII tab, line
feed, vertical tab, form feed, carriage return and space, next line, no-break
space, Ogham space mark, the spaces from en quad to hair space, the line and
paragraph separators, narrow no-break space, medium mathematical space and
ideographic space. -/
def isBlank (c : Char) : Bool :=
  let n := c.toNat
  (0x09 ≤ n && n ≤ 0x0D) || n == 0x20 || n == 0x85 || n == 0xA0 || n == 0x1680 ||
    (0x2000 ≤ n && n ≤ 0x200A) || n == 0x2028 || n == 0x2029 || n == 0x202F ||
    n == 0x205F || n == 0x3000

example : isBlank ' ' = true ∧ isBlank '\u00A0' = true ∧ isBlank 'a' = false := by decide

/-- The characters of a text without its blanks at either end. -/
def trimBlankChars (cs : List Char) : List Char :=
  ((cs.dropWhile isBlank).reverse.dropWhile isBlank).reverse

/-- A text without its blanks at either end. -/
def trimBlank (s : String) : String :=
  String.ofList (trimBlankChars s.toList)

end GeoAccess.Text
