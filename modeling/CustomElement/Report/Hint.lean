-- SUMMARY: The likely mistake in a source that cannot be read.
import CustomElement.Text.Blank
import CustomElement.Text.Case

/-! ## Hints

The whole text is searched for common mistakes, and the first one that is found is reported: an odd
number of backticks, brackets of one sort that do not match in number, an export without anything
exported. -/

namespace CustomElement.Report

/-- The sorts of brackets. -/
inductive Bracket where
  | brace
  | parenthesis
  | square
  deriving DecidableEq, Repr

namespace Bracket

/-- The sorts in the order in which they are looked at. -/
def all : List Bracket := [brace, parenthesis, square]

/-- The opening bracket. -/
def opening : Bracket → Char
  | brace => '\x7b'
  | parenthesis => '('
  | square => '['

/-- The closing bracket. -/
def closing : Bracket → Char
  | brace => '\x7d'
  | parenthesis => ')'
  | square => ']'

/-- The brackets in a message. -/
def label : Bracket → String
  | brace => "braces"
  | parenthesis => "parentheses"
  | square => "brackets"

/-- The brackets in the name of a mistake. -/
def shortName : Bracket → String
  | brace => "braces"
  | parenthesis => "parens"
  | square => "brackets"

end Bracket

/-- A likely mistake. -/
inductive Hint where
  | openTemplate
  /-- So many opening and so many closing brackets. -/
  | unmatched (bracket : Bracket) (opened closed : Nat)
  | emptyExport
  deriving DecidableEq, Repr

namespace Hint

/-- The name of the mistake. -/
def name : Hint → String
  | openTemplate => "unterminated_template"
  | unmatched b _ _ => "unmatched_" ++ b.shortName
  | emptyExport => "empty_default_export"

/-- What to look at. -/
def message : Hint → String
  | openTemplate => "Unterminated template literal: check for a missing '`'"
  | unmatched b opened closed =>
    "Unmatched " ++ b.label ++ ": found " ++ toString opened ++ " '" ++ b.opening.toString ++
      "' but " ++ toString closed ++ " '" ++ b.closing.toString ++ "'"
  | emptyExport => "'export default' needs a function, class or expression after it"

end Hint

/-- The rest of a text behind another that it begins with. -/
def after? (start : String) (cs : List Char) : Option (List Char) :=
  if start.toList.isPrefixOf cs then some (cs.drop start.length) else none

/-- Does a text begin with an export of nothing: the words `export default` up to a semicolon or
the end of the line? -/
def beginsEmptyExport (cs : List Char) : Bool :=
  match after? "export" cs with
  | none => false
  | some rest =>
    if !rest.head?.any Text.isBlank then false else
    match after? "default" (rest.dropWhile Text.isBlank) with
    | none => false
    | some rest =>
      match rest.dropWhile fun c => c == ' ' || c == '\t' with
      | [] => true
      | c :: _ => c == ';' || c == '\n'

/-- Is there an export of nothing at the start of a word? `before` is the character before the
text. -/
def hasEmptyExport (before : Option Char) : List Char → Bool
  | [] => false
  | c :: cs =>
    (!before.any Text.isWordChar && beginsEmptyExport (c :: cs)) || hasEmptyExport (some c) cs

/-- The first sort of brackets that do not match in number. -/
def unmatched? (cs : List Char) : List Bracket → Option Hint
  | [] => none
  | b :: bs =>
    let opened := cs.count b.opening
    let closed := cs.count b.closing
    if opened ≠ closed then some (.unmatched b opened closed) else unmatched? cs bs

/-- The likely mistake in a source. -/
def hint? (source : String) : Option Hint :=
  let cs := source.toList
  if cs.count '`' % 2 = 1 then some .openTemplate else
  match unmatched? cs Bracket.all with
  | some h => some h
  | none => if hasEmptyExport none cs then some .emptyExport else none

end CustomElement.Report
