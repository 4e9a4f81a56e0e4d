-- SUMMARY: Upper case, lower case, letters and numerals, for all characters.
import CustomElement.Text.CaseTable
import CustomElement.Text.LetterTable
import CustomElement.Text.NumeralTable

/-! ## Case

Names become tags by lower-casing their upper-case characters, and a tag prefix must be its own
lower case. Both follow the tables for all characters, not only for ASCII. -/

namespace CustomElement.Text

/-- Is the character upper case? Characters in title case are not. -/
def isUpper (c : Char) : Bool :=
  CaseTable.upper.any fun (first, last, step) =>
    first ≤ c.toNat && c.toNat ≤ last && (c.toNat - first) % step == 0

/-- The lower-case form of a character. One character has a form of two. -/
def lowerChar (c : Char) : List Char :=
  if c = '\u0130' then ['i', '\u0307'] else
  match CaseTable.lowered.find? fun (first, last, step, _) =>
    first ≤ c.toNat && c.toNat ≤ last && (c.toNat - first) % step == 0 with
  | some (_, _, _, distance) => [Char.ofNat (c.toNat + distance).toNat]
  | none => [c]

/-- The text with each character in its lower-case form. -/
def lower (s : String) : String := String.ofList (s.toList.flatMap lowerChar)

/-- Is the character a letter? -/
def isLetter (c : Char) : Bool :=
  LetterTable.letters.any fun (first, last) => first ≤ c.toNat && c.toNat ≤ last

/-- May the character stand in a word? -/
def isWordChar (c : Char) : Bool :=
  c == '_' || isLetter c ||
    NumeralTable.numerals.any fun (first, last) => first ≤ c.toNat && c.toNat ≤ last

/-- Is the character a digit, of any script? -/
def isDecimal (c : Char) : Bool :=
  NumeralTable.zeros.any fun first => first ≤ c.toNat && c.toNat < first + 10

end CustomElement.Text
