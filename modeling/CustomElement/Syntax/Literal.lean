-- SUMMARY: The text of a string literal in double quotes.

/-! ## String literals

The quote, the backslash, the control characters that have a letter, the zero character and the
two line ends beyond ASCII are escaped; every other character stands for itself. -/

namespace CustomElement.Syntax

/-- A character inside double quotes. -/
def escapeChar (c : Char) : List Char :=
  if c = '\\' then ['\\', '\\']
  else if c = '"' then ['\\', '"']
  else if c = '\n' then ['\\', 'n']
  else if c = '\r' then ['\\', 'r']
  else if c = '\t' then ['\\', 't']
  else if c = '\x08' then ['\\', 'b']
  else if c = '\x0c' then ['\\', 'f']
  else if c = '\x0b' then ['\\', 'v']
  else if c = '\x00' then ['\\', 'x', '0', '0']
  else if c = '\u2028' then ['\\', 'u', '2', '0', '2', '8']
  else if c = '\u2029' then ['\\', 'u', '2', '0', '2', '9']
  else [c]

/-- The text between the quotes of a literal. -/
def escape (s : String) : String := String.ofList (s.toList.flatMap escapeChar)

/-- The literal. -/
def stringLiteral (s : String) : String := "\"" ++ escape s ++ "\""

end CustomElement.Syntax
