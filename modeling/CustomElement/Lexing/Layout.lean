-- SUMMARY: The tokens that depend on line breaks or on the surrounding construct.
import CustomElement.Lexing.Lexeme
import CustomElement.Text.Case

/-! ## Layout tokens

Whether a line break ends a statement depends on what follows it and on what the state expects;
so do the text of templates and of JSX elements, the `?` of a conditional, and the comments that
begin with an arrow. A character with the number zero counts as the end of the text here. -/

namespace CustomElement.Lexing

open Grammar

/-! ## A place in the characters -/

/-- How many characters have been passed, and the rest. -/
structure Cursor where
  passed : Nat
  rest : List Char
  deriving Inhabited

namespace Cursor

/-- The next character, zero at the end. -/
def peek (c : Cursor) : Char := c.rest.headD '\x00'

/-- One character on. -/
def next (c : Cursor) : Cursor :=
  match c.rest with
  | [] => c
  | _ :: rest => ⟨c.passed + 1, rest⟩

/-- Past all characters of a class. -/
def skipWhile (p : Char → Bool) (c : Cursor) : Cursor :=
  let n := span p c.rest
  ⟨c.passed + n, c.rest.drop n⟩

/-- Past a given text, if it stands here. -/
def skipText? (c : Cursor) (text : List Char) : Option Cursor :=
  if text.isPrefixOf c.rest then some ⟨c.passed + text.length, c.rest.drop text.length⟩ else none

end Cursor

/-- A layout token: how far it begins from the place of scanning, and its length. -/
structure LayoutToken where
  kind : Layout
  before : Nat
  length : Nat

/-- White space, as far as line ends are concerned. -/
def isSpace (c : Char) : Bool :=
  let n := c.toNat
  (0x9 ≤ n && n ≤ 0xd) || n == 0x20 || n == 0x1680 || (0x2000 ≤ n && n ≤ 0x2006) ||
    (0x2008 ≤ n && n ≤ 0x200a) || n == 0x2028 || n == 0x2029 || n == 0x205f || n == 0x3000

/-! ## Statement ends -/

/-- The length of a block comment after its opening, up to its end or to the end of the text, and
whether it ends. -/
def blockLength : List Char → Nat × Bool
  | [] => (0, false)
  | '\x00' :: _ => (0, false)
  | '*' :: '/' :: _ => (2, true)
  | _ :: rest =>
    let (n, closed) := blockLength rest
    (n + 1, closed)

/-- Where a search for the end of spaces and comments stopped. -/
structure CommentSearch where
  /-- There was a comment. -/
  commented : Bool
  /-- The search stopped behind a slash that begins no comment. -/
  slashed : Bool
  stop : Cursor

/-- Past spaces and comments. `fuel` bounds the number of comments. -/
def passComments : Nat → Cursor → Bool → CommentSearch
  | 0, c, seen => ⟨seen, false, c⟩
  | fuel + 1, c, seen =>
    let c := c.skipWhile isSpace
    match c.rest with
    | '/' :: '/' :: _ =>
      passComments fuel (c.next.next.skipWhile fun d => d != '\x00' && d != '\n') true
    | '/' :: '*' :: rest =>
      let (n, closed) := blockLength rest
      passComments fuel ⟨c.passed + 2 + n, rest.drop n⟩ (seen || closed)
    | '/' :: _ => ⟨seen, true, c.next⟩
    | _ => ⟨seen, false, c⟩

/-- What was found about the end of a statement: whether it ends here, whether comments were
passed, and where the search stopped. -/
structure EndSearch where
  ends : Bool
  commented : Bool
  stop : Cursor

/-- Does a statement end at a line break that is followed by this? It does not where the next line
goes on: with an operator, a bracket, a member access. Where no binary operator is expected a
bracket begins something new, and `signature` forbids an end before the body of a function. -/
def endsBefore (operators signature : Bool) (c : Cursor) : Bool × Cursor :=
  let d := c.peek
  if "`,.;*%><=?^|&/:".toList.contains d then (false, c)
  else if d == '\x7b' then (!signature, c)
  else if d == '(' || d == '[' then (!operators, c)
  else if d == '+' then (c.next.peek == '+', c.next)
  else if d == '-' then (c.next.peek == '-', c.next)
  else if d == '!' then (c.next.peek != '=', c.next)
  else if d == 'i' then
    let c := c.next
    if c.peek != 'n' then (true, c) else
    let c := c.next
    if !Text.isLetter c.peek then (false, c) else
    match c.skipText? "stanceof".toList with
    | none => (true, c)
    | some c => (Text.isLetter c.peek, c)
  else (true, c)

/-- Look for the end of a statement: the end of the text, a closing brace, or a line break before
something that does not go on with the statement. A brace before a colon closes a pattern with a
type, not a block. -/
def searchEnd (operators signature : Bool) (c : Cursor) : EndSearch :=
  let c := c.skipWhile fun d => isSpace d && d != '\n'
  let d := c.peek
  if d == '\x00' then ⟨true, false, c⟩
  else if d == '\x7d' then
    let c := c.next.skipWhile isSpace
    ⟨if c.peek == ':' then operators else true, false, c⟩
  else if d != '\n' then ⟨false, false, c⟩
  else
    let passed := passComments (c.rest.length + 1) c.next false
    if passed.slashed then ⟨false, passed.commented, passed.stop⟩ else
    let (ends, stop) := endsBefore operators signature passed.stop
    ⟨ends, passed.commented, stop⟩

/-! ## Other layout tokens -/

/-- The `?` of a conditional. It is not followed by a dot or a second `?`, nor by what follows the
mark of an optional parameter. -/
def conditionalMark? (c : Cursor) : Option LayoutToken :=
  let c := c.skipWhile isSpace
  match c.rest with
  | '?' :: rest =>
    if rest.head? == some '?' || rest.head? == some '.' then none else
    let d := (c.next.skipWhile isSpace)
    if d.peek == ':' || d.peek == ')' || d.peek == ',' then none
    else if d.peek == '.' && !d.next.peek.isDigit then none
    else some ⟨.conditionalMark, c.passed, 1⟩
  | _ => none

/-- The length of the text of a template up to an escape, a substitution or the end; `none` where
the source ends before. -/
def templateLength : List Char → Option Nat
  | [] => none
  | '\x00' :: _ => none
  | '`' :: _ | '\\' :: _ => some 0
  | '$' :: '\x7b' :: _ => some 0
  | _ :: rest => (templateLength rest).map (· + 1)

/-- The text of a template. -/
def templateText? (c : Cursor) : Option LayoutToken :=
  match templateLength c.rest with
  | some (n + 1) => some ⟨.templateText, c.passed, n + 1⟩
  | _ => none

/-- The characters of a JSX element's text. -/
def isJsxText (c : Char) : Bool := !"\x00<>\x7b\x7d&".toList.contains c

/-- Does the text of a JSX element hold more than line breaks with the space around them?
`fresh` says that only spaces stand since the last line break. -/
def hasContent (fresh : Bool) : List Char → Bool
  | [] => false
  | c :: rest =>
    if c == '\n' then hasContent true rest
    else if fresh && isSpace c then hasContent true rest
    else true

/-- The text of a JSX element, and where it ends. Text without content is no token. -/
def elementText (c : Cursor) : Option LayoutToken × Cursor :=
  let text := c.rest.takeWhile isJsxText
  let stop := ⟨c.passed + text.length, c.rest.drop text.length⟩
  (if hasContent false text then some ⟨.jsxText, c.passed, text.length⟩ else none, stop)

/-- A comment that begins with an arrow as in a markup comment, to the end of the line. `start` is
where it begins if no space stands before the arrow. -/
def htmlComment? (start : Nat) (c : Cursor) : Option LayoutToken :=
  let d := c.skipWhile isSpace
  let start := if c.passed < d.passed then d.passed else start
  let c := d
  let after := c.skipText? "<!--".toList <|> c.skipText? "-->".toList
  after.map fun d =>
    let e := d.skipWhile fun x => x != '\x00' && x != '\n' && x != '\u2028' && x != '\u2029'
    ⟨.htmlComment, start, e.passed - start⟩

/-! ## The choice between them -/

/-- What a state expects, as far as layout tokens are concerned. -/
structure Expectation where
  semicolon : Bool
  signature : Bool
  templateText : Bool
  conditionalMark : Bool
  jsxText : Bool
  /-- A binary operator may stand here. -/
  operators : Bool
  /-- The place is inside a string, a template or a regular expression. -/
  quoted : Bool

/-- The layout token at a place, if there is one. The blank text of an element is passed first: a
comment behind it begins with it. -/
def layoutToken? (e : Expectation) (c : Cursor) : Option LayoutToken :=
  if e.templateText then
    if e.semicolon then none else templateText? c
  else
  let start := c.passed
  match if e.jsxText then elementText c else (none, c) with
  | (some t, _) => some t
  | (none, c) =>
    if e.semicolon || e.signature then
      let found := searchEnd e.operators e.signature c
      if found.ends then some ⟨.semicolon, c.passed, 0⟩
      else if !found.commented && e.conditionalMark && found.stop.peek == '?' then
        conditionalMark? found.stop
      else none
    else if e.conditionalMark then conditionalMark? c
    else if !e.operators && !e.quoted then htmlComment? start c
    else none

end CustomElement.Lexing
