-- SUMMARY: White space, and texts without the white space around them.

/-! ## White space

The characters that count as white space around a text: the spaces and separators, the controls
from tab to carriage return, the four information separators, and the next-line control. -/

namespace CustomElement.Text

/-- Is the character white space? -/
def isBlank (c : Char) : Bool :=
  let n := c.toNat
  (0x9 ≤ n && n ≤ 0xd) || (0x1c ≤ n && n ≤ 0x20) || n == 0x85 || n == 0xa0 || n == 0x1680 ||
    (0x2000 ≤ n && n ≤ 0x200a) || n == 0x2028 || n == 0x2029 || n == 0x202f || n == 0x205f ||
    n == 0x3000

/-- The characters without the white space before and after them. -/
def stripBlanks (cs : List Char) : List Char :=
  ((cs.dropWhile isBlank).reverse.dropWhile isBlank).reverse

/-- The text without the white space before and after it. -/
def strip (s : String) : String := String.ofList (stripBlanks s.toList)

end CustomElement.Text
