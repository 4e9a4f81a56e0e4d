-- SUMMARY: The next token of a text, given what a state expects.
import CustomElement.Lexing.Layout
import CustomElement.Grammar.Automaton

/-! ## Tokens

Only tokens that the state expects compete for the next characters. The longest wins, among equals
a fixed text over a class. The inside of a string goes before everything else, gaps included. A
word is read as a name first: it is the fixed word only where the state expects that word. -/

namespace CustomElement.Lexing

open Grammar

/-- A token: its terminal, the characters before it and in it, and whether its text is a word that
the grammar knows. A text that nothing begins with has no terminal. -/
structure Token where
  terminal : Option Symbol
  before : Nat
  length : Nat
  isWord : Bool := false

/-! ## The lexicon -/

/-- The terminals sorted by the way they are read. Fixed texts that are no words are found by the
code of their first character. -/
structure Lexicon where
  numbers : Std.HashMap Terminal Symbol
  words : Std.HashMap String Symbol
  wordSet : TerminalSet
  marks : Std.HashMap Nat (List (Symbol × List Char))

/-- Is a spelling a word? -/
def isWordSpelling (s : String) : Bool := s.toList.all fun c => 'a' ≤ c && c ≤ 'z'

namespace Lexicon

/-- The lexicon of the grammar. -/
def build (T : Tables) : Lexicon :=
  T.terminals.zipIdx.foldl (fun (x : Lexicon) (t, i) =>
    match t with
    | .text s =>
      if isWordSpelling s then
        { x with words := x.words.insert s i, wordSet := x.wordSet ||| .single i }
      else
        let first := (s.toList.headD ' ').toNat
        { x with marks := x.marks.insert first (x.marks.getD first [] ++ [(i, s.toList)]) }
    | _ => x) ⟨T.numbers, ∅, 0, ∅⟩

/-- The number of a lexeme class. -/
def lexeme (x : Lexicon) (l : Lexeme) : Symbol := x.numbers.getD (.lexeme l) 0

/-- The number of a layout token. -/
def layout (x : Lexicon) (l : Layout) : Symbol := x.numbers.getD (.layout l) 0

/-- The number of a fixed text. -/
def text (x : Lexicon) (s : String) : Symbol := x.numbers.getD (.text s) 0

end Lexicon

/-! ## Reading by class -/

/-- The insides of strings, and the end of a regular expression. -/
def insides : List Lexeme :=
  [.doubleJsxText, .singleJsxText, .doubleQuotedText, .singleQuotedText, .regexEnd]

/-- Classes that follow the token before them without a gap. -/
def isAttached : Lexeme → Bool
  | .escape | .regexFlags => true
  | _ => false

/-- The classes that compete by length. -/
def competing : List Lexeme :=
  [.hashBang, .characterReference, .jsxIdentifier, .escape, .comment, .regexFlags, .number,
   .privateIdentifier]

/-- A candidate: length, strength among equals, and terminal. -/
structure Candidate where
  length : Nat
  strength : Nat
  terminal : Symbol

/-- The better of two candidates. -/
def Candidate.better (a b : Candidate) : Candidate :=
  if b.length = 0 then a
  else if a.length < b.length then b
  else if b.length < a.length then a
  else if a.strength < b.strength || (a.strength == b.strength && b.terminal < a.terminal) then b
  else a

/-- The token at a place by fixed texts and classes alone. -/
def classToken? (x : Lexicon) (expected : TerminalSet) (c : Cursor) : Option Token :=
  let has := fun (l : Lexeme) => TerminalSet.has expected (x.lexeme l)
  let inside := (insides.filter has).foldl
    (fun best l => best.better ⟨lexemeLength l c.rest, 0, x.lexeme l⟩) (⟨0, 0, 0⟩ : Candidate)
  if 0 < inside.length then some ⟨some inside.terminal, c.passed, inside.length, false⟩ else
  let pattern := if has .regexPattern && comment c.rest = 0 then regexPattern c.rest else 0
  if 0 < pattern then some ⟨some (x.lexeme .regexPattern), c.passed, pattern, false⟩ else
  let d := c.skipWhile isGap
  let gap := c.passed < d.passed
  match d.rest with
  | [] => if TerminalSet.has expected 0 then some ⟨some 0, d.passed, 0, false⟩ else none
  | first :: _ =>
    let marks := ((x.marks.getD first.toNat []).filter fun (t, spelling) =>
      TerminalSet.has expected t && spelling.isPrefixOf d.rest).map
      fun (t, spelling) => (⟨spelling.length, 2, t⟩ : Candidate)
    let classes := (competing.filter fun l => has l && !(gap && isAttached l)).map fun l =>
      (⟨lexemeLength l d.rest, if isAttached l then 1 else 0, x.lexeme l⟩ : Candidate)
    let names := if has .identifier || (expected &&& x.wordSet) != 0 then
      [(⟨identifier d.rest, 0, x.lexeme .identifier⟩ : Candidate)] else []
    let best : Candidate := (marks ++ classes ++ names).foldl Candidate.better ⟨0, 0, 0⟩
    if best.length = 0 then none else some ⟨some best.terminal, d.passed, best.length, false⟩

/-- What a set of terminals means for layout tokens. -/
def expectationOf (x : Lexicon) (expected : TerminalSet) : Expectation :=
  let has := TerminalSet.has expected
  { semicolon := has (x.layout .semicolon)
    signature := has (x.layout .signatureSemicolon)
    templateText := has (x.layout .templateText)
    conditionalMark := has (x.layout .conditionalMark)
    jsxText := has (x.layout .jsxText)
    operators := has (x.text "||")
    quoted := has (x.lexeme .escape) || has (x.lexeme .regexPattern) }

/-! ## Text that nothing begins with -/

/-- How much of an escape that is not completed has been read when it fails. -/
def brokenEscape : List Char → Nat
  | 'u' :: '\x7b' :: rest => 2 + span isHex rest
  | 'u' :: rest => 1 + span isHex (rest.take 4)
  | 'x' :: rest => 1 + span isHex (rest.take 1)
  | _ => 0

/-- How much is read in vain where no token begins. -/
def readInVain : List Char → Nat
  | '#' :: _ => 1
  | '\\' :: rest => 1 + brokenEscape rest
  | _ => 0

/-- Pass text that nothing begins with, until a token begins. `stop` is the end of what has been
passed. The result tells how far the text reaches. -/
def passUnreadable (x : Lexicon) (recovery : TerminalSet) : Nat → Cursor → Nat → Nat
  | 0, _, stop => stop
  | fuel + 1, c, stop =>
    match classToken? x recovery c with
    | some _ => stop
    | none =>
      let d := c.skipWhile isGap
      let n := readInVain d.rest
      let e : Cursor := ⟨d.passed + n, d.rest.drop n⟩
      let e := if e.passed = stop then e.next else e
      passUnreadable x recovery fuel e e.passed

/-- The unreadable text at a place, up to where a token begins. -/
def unreadable (x : Lexicon) (recovery : TerminalSet) (c : Cursor) : Token :=
  let d := c.skipWhile isGap
  ⟨none, d.passed, passUnreadable x recovery (c.rest.length + 2) c d.passed - d.passed, false⟩

/-! ## The next token -/

/-- Is the text of a token a word that the grammar knows, and is it expected as that word? -/
def recogniseWord (x : Lexicon) (expected : TerminalSet) (c : Cursor) (t : Token) : Token :=
  if t.terminal != some (x.lexeme .identifier) then t else
  let spelling := (c.rest.drop (t.before - c.passed)).take t.length
  match x.words.get? (String.ofList spelling) with
  | none => t
  | some w =>
    if TerminalSet.has expected w then { t with terminal := some w, isWord := true }
    else { t with isWord := true }

/-- The next token for a state that expects some terminals. `recovery` is what is looked for when
nothing expected begins here, and `mayBeEmpty` allows a token without characters. -/
def nextToken (x : Lexicon) (recovery expected : TerminalSet) (recovering mayBeEmpty : Bool)
    (cs : List Char) (atStart : Bool) : Token :=
  let c : Cursor := ⟨0, cs⟩
  let c := if atStart && c.peek == '\ufeff' then c.next else c
  let layout := if recovering then none else
    match layoutToken? (expectationOf x expected) c with
    | some t => if t.length = 0 && !mayBeEmpty then none else some t
    | none => none
  match layout with
  | some t => ⟨some (x.layout t.kind), t.before, t.length, false⟩
  | none =>
    match classToken? x expected c with
    | some t => recogniseWord x expected c t
    | none =>
      match classToken? x recovery c with
      | some t => recogniseWord x expected c t
      | none => unreadable x recovery c

end CustomElement.Lexing
