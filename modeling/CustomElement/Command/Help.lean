-- SUMMARY: The usage line and the help of a command.
import CustomElement.Command.Arguments

/-! ## Help

The help lists operands and options in two columns. The second column begins behind the longest
entry of the first, but not too far to the right, and is broken between words. -/

namespace CustomElement.Command

/-- How long a line of the help may be. -/
def helpWidth : Nat := 78

/-- Where the second column begins at the latest. -/
def maxColumn : Nat := 24

/-! ## Usage -/

/-- The names of commands in braces. -/
def commandChoice (names : List (String × String)) : String :=
  "\x7b" ++ ",".intercalate (names.map (·.1)) ++ "\x7d"

/-- An option in a usage line. -/
def OptionSpec.usage (o : OptionSpec) : String :=
  let name := o.names.headD ""
  match o.value with
  | none => "[" ++ name ++ "]"
  | some v => "[" ++ name ++ " " ++ v ++ "]"

/-- An operand in a usage line. -/
def Operand.usage : Operand → List String
  | nothing => []
  | value name _ => [name]
  | commands names => [commandChoice names, "..."]

/-- The usage line. -/
def CommandSpec.usage (c : CommandSpec) : String :=
  "usage: " ++ " ".intercalate (c.name :: c.options.map OptionSpec.usage ++ c.operand.usage) ++ "\n"

/-! ## Columns -/

/-- An entry of the help. -/
structure HelpRow where
  indent : Nat
  left : String
  right : String
  deriving DecidableEq, Repr

/-- Words on lines of a width. -/
def wrap (width : Nat) : List String → List String
  | [] => []
  | w :: ws =>
    match wrapOnto width w ws with
    | (line, lines) => line :: lines
where
  /-- The first line, that begins with a text, and the lines behind it. -/
  wrapOnto (width : Nat) (line : String) : List String → String × List String
    | [] => (line, [])
    | w :: ws =>
      if line.length + 1 + w.length ≤ width then wrapOnto width (line ++ " " ++ w) ws
      else
        match wrapOnto width w ws with
        | (next, lines) => (line, next :: lines)

/-- Spaces. -/
def blank (n : Nat) : String := "".pushn ' ' n

/-- The lines of an entry, with the second column at a place. -/
def HelpRow.print (column : Nat) (r : HelpRow) : String :=
  let left := blank r.indent ++ r.left
  let words := (r.right.splitOn " ").filter (· ≠ "")
  match wrap (helpWidth - column) words with
  | [] => left ++ "\n"
  | first :: rest =>
    let start := if left.length + 2 ≤ column then left ++ blank (column - left.length) ++ first
      else left ++ "\n" ++ blank column ++ first
    start ++ "\n" ++ String.join (rest.map fun line => blank column ++ line ++ "\n")

/-- The entry of an option. -/
def OptionSpec.row (o : OptionSpec) : HelpRow :=
  let withValue (name : String) := match o.value with
    | none => name
    | some v => name ++ " " ++ v
  ⟨2, ", ".intercalate (o.names.map withValue), o.help⟩

/-- The entries of an operand. -/
def Operand.rows : Operand → List HelpRow
  | nothing => []
  | value name help => [⟨2, name, help⟩]
  | commands names => ⟨2, commandChoice names, ""⟩ :: names.map fun n => ⟨4, n.1, n.2⟩

/-- A part of the help, if it has entries. -/
def helpSection (title : String) (column : Nat) (rows : List HelpRow) : String :=
  if rows.isEmpty then ""
  else "\n" ++ title ++ ":\n" ++ String.join (rows.map (HelpRow.print column))

/-- The help. -/
def CommandSpec.help (c : CommandSpec) : String :=
  let operands := c.operand.rows
  let options := c.options.map OptionSpec.row
  let longest := (operands ++ options).foldl (fun n r => max n (r.indent + r.left.length)) 0
  let column := min (longest + 2) maxColumn
  c.usage ++ (if c.description = "" then "" else "\n" ++ c.description ++ "\n") ++
    helpSection "positional arguments" column operands ++ helpSection "options" column options

end CustomElement.Command
