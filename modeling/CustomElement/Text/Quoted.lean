-- SUMMARY: Texts in quotes, as messages show them.
import CustomElement.Text.PrintableTable
import CustomElement.Text.Hex

/-! ## Quoted texts

A message shows a piece of source between quotes: single ones, unless the text holds a single
quote and no double quote. The quote and the backslash are escaped, and so is every character that
cannot be printed: tab, line feed and carriage return by letter, others by number. -/

namespace CustomElement.Text

/-- Can the character be printed as it is? -/
def isPrintable (c : Char) : Bool :=
  PrintableTable.printable.any fun (first, last) => first ≤ c.toNat && c.toNat ≤ last

/-- A character by number: two, four or eight digits. -/
def numbered (c : Char) : List Char :=
  let n := c.toNat
  if n < 0x100 then '\\' :: 'x' :: hexDigits n 2
  else if n < 0x10000 then '\\' :: 'u' :: hexDigits n 4
  else '\\' :: 'U' :: hexDigits n 8

/-- A character inside quotes. -/
def quotedChar (quote : Char) (c : Char) : List Char :=
  if c = quote || c = '\\' then ['\\', c]
  else if c = '\t' then ['\\', 't']
  else if c = '\n' then ['\\', 'n']
  else if c = '\r' then ['\\', 'r']
  else if isPrintable c then [c]
  else numbered c

/-- The text in quotes. -/
def quoted (s : String) : String :=
  let cs := s.toList
  let quote := if cs.contains '\'' && !cs.contains '"' then '"' else '\''
  String.ofList (quote :: (cs.flatMap (quotedChar quote) ++ [quote]))

end CustomElement.Text
