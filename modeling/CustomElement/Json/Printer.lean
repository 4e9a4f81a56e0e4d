-- SUMMARY: The text of a JSON value, on one line or with one item a line.
import CustomElement.Json.Value
import CustomElement.Text.Hex

/-! ## Printing JSON

Every character outside printable ASCII is escaped by number, by two numbers beyond the first 65536
characters. A value is printed on one line, or with every item on a line of its own, indented by
two spaces. -/

namespace CustomElement.Json

/-! ## Strings -/

/-- An escape by number. -/
def unicodeEscape (n : Nat) : List Char := '\\' :: 'u' :: Text.hexDigits n 4

/-- A character inside quotes. -/
def escapeChar (c : Char) : List Char :=
  if c = '"' || c = '\\' then ['\\', c]
  else if c = '\n' then ['\\', 'n']
  else if c = '\r' then ['\\', 'r']
  else if c = '\t' then ['\\', 't']
  else if c = '\x08' then ['\\', 'b']
  else if c = '\x0c' then ['\\', 'f']
  else
    let n := c.toNat
    if 32 ≤ n && n ≤ 126 then [c]
    else if n < 0x10000 then unicodeEscape n
    else unicodeEscape (0xd800 + (n - 0x10000) / 0x400) ++
      unicodeEscape (0xdc00 + (n - 0x10000) % 0x400)

/-- A string in quotes. -/
def printString (s : String) : String :=
  String.ofList ('"' :: (s.toList.flatMap escapeChar ++ ['"']))

/-! ## Values -/

/-- A number that is not written as a whole one. -/
def Real.print : Real → String
  | finite mantissa exponent => toString mantissa ++ "e" ++ toString exponent
  | infinite negative => if negative then "-Infinity" else "Infinity"
  | notANumber => "NaN"

/-- What stands between the parts of a list or an object. -/
structure Style where
  /-- Behind the opening bracket and behind each comma, at a depth. -/
  line : Nat → String
  comma : String
  colon : String

/-- All on one line. -/
def Style.compact : Style := ⟨fun _ => "", ",", ":"⟩

/-- An item a line, indented by two spaces. -/
def Style.indented : Style := ⟨fun depth => "\n" ++ "".pushn ' ' (2 * depth), ",", ": "⟩

/-- Parts in brackets. -/
def enclose (style : Style) (depth : Nat) (opening closing : String) (parts : List String) :
    String :=
  if parts.isEmpty then opening ++ closing
  else opening ++ style.line (depth + 1) ++
    (style.comma ++ style.line (depth + 1)).intercalate parts ++ style.line depth ++ closing

mutual

/-- The text of a value at a depth. -/
def Value.print (style : Style) (depth : Nat) : Value → String
  | .null => "null"
  | .bool true => "true"
  | .bool false => "false"
  | .int n => toString n
  | .real x => x.print
  | .string s => printString s
  | .array items => enclose style depth "[" "]" (printItems style (depth + 1) items)
  | .object fields =>
    enclose style depth "\x7b" "\x7d" (printFields style (depth + 1) fields)

/-- The texts of items. -/
def printItems (style : Style) (depth : Nat) : List Value → List String
  | [] => []
  | v :: vs => v.print style depth :: printItems style depth vs

/-- The texts of fields. -/
def printFields (style : Style) (depth : Nat) : List (String × Value) → List String
  | [] => []
  | (name, v) :: fields =>
    (printString name ++ style.colon ++ v.print style depth) :: printFields style depth fields

end

/-- The value on one line. -/
def Value.compact (v : Value) : String := v.print .compact 0

/-- The value with one item a line. -/
def Value.indented (v : Value) : String := v.print .indented 0

end CustomElement.Json
