-- SUMMARY: A module from the tree of its source, and the syntax error where the tree has one.
import CustomElement.Parsing.Node
import CustomElement.Syntax.Module
import CustomElement.Text.Blank
import CustomElement.Text.Lines
import CustomElement.Text.Quoted

/-! ## Reading modules

The nodes at the top of the tree become items: default exports are taken apart, other statements
are kept as text. Comments, blank lines and stray semicolons are no items; they stay in the text
between items. The tree counts bytes, the module counts characters. -/

namespace CustomElement.Syntax

open Grammar Parsing

/-! ## Syntax errors -/

/-- What is wrong with a source. -/
inductive SyntaxFault where
  /-- A token is missing. -/
  | missing (name : String)
  /-- Text stands where it cannot; the start of its first line. -/
  | unexpected (snippet : String)
  | unexpectedEnd
  deriving DecidableEq, Repr

/-- The fault in words. -/
def SyntaxFault.message : SyntaxFault → String
  | missing name => "Missing " ++ Text.quoted name
  | unexpected snippet => "Unexpected " ++ Text.quoted snippet
  | unexpectedEnd => "Unexpected end of input"

/-- The first fault of a source, with its line and column. -/
structure SyntaxError where
  fault : SyntaxFault
  line : Nat
  column : Nat
  deriving DecidableEq, Repr

/-- How much of an unexpected text is shown. -/
def snippetLength : Nat := 40

/-- What is shown of an unexpected text: its first line, without white space around the text, and
not more than the start of it. -/
def snippet (cs : List Char) : List Char :=
  ((Text.linesOf (Text.stripBlanks cs)).headD []).take snippetLength

/-- The fault at a node. -/
def SyntaxFault.ofNode (source : List Char) (n : Node) : SyntaxFault :=
  if n.isMissing then .missing n.kind.name else
  let text := Text.takeBytes (n.stop.byte - n.start.byte) (Text.dropBytes n.start.byte source)
  match snippet text with
  | [] => .unexpectedEnd
  | shown => .unexpected (String.ofList shown)

/-- The error at a node. -/
def SyntaxError.ofNode (source : List Char) (n : Node) : SyntaxError where
  fault := .ofNode source n
  line := n.start.line + 1
  column := Text.columnAfter (Text.takeBytes n.start.byte source)

/-! ## Kinds of nodes -/

/-- Nodes that are no items. -/
def isTrivia (n : Node) : Bool :=
  match n.kind with
  | .terminal (.lexeme .comment) | .terminal (.layout .htmlComment)
  | .phrase .emptyStatement => true
  | _ => false

/-- Names of variables. -/
def isName (n : Node) : Bool :=
  match n.kind with
  | .terminal (.lexeme .identifier) | .role .identifier => true
  | _ => false

/-- Functions, with a name or without. -/
def isFunction (n : Node) : Bool :=
  match n.kind with
  | .phrase .functionDeclaration | .phrase .generatorFunctionDeclaration
  | .phrase .functionExpression | .phrase .generatorFunction => true
  | _ => false

/-- Classes, with a name or without. -/
def isClass (n : Node) : Bool :=
  match n.kind with
  | .phrase .classDeclaration | .phrase .abstractClassDeclaration
  | .phrase .classExpression => true
  | _ => false

/-- What a function returns: a type, or what is asserted. -/
def isReturnType (n : Node) : Bool :=
  match n.kind with
  | .phrase .typeAscription | .phrase .assertsAscription
  | .phrase .typePredicateAscription => true
  | _ => false

/-- A fixed text. -/
def isText (spelling : String) (n : Node) : Bool := n.kind == .terminal (.text spelling)

/-! ## The source of a tree -/

/-- A source with the characters of its byte offsets. -/
structure SourceText where
  chars : List Char
  offsets : Text.Offsets

namespace SourceText

/-- A source. -/
def ofChars (cs : List Char) : SourceText := ⟨cs, .ofChars cs⟩

/-- Where a node begins. -/
def start (s : SourceText) (n : Node) : Nat := s.offsets.char n.start.byte

/-- Where a node ends. -/
def stop (s : SourceText) (n : Node) : Nat := s.offsets.char n.stop.byte

/-- The characters from one offset to another. -/
def between (s : SourceText) (start stop : Nat) : String :=
  String.ofList ((s.chars.take stop).drop start)

/-- The text of a node. -/
def text (s : SourceText) (n : Node) : String := s.between (s.start n) (s.stop n)

/-- The text of a node inside its brackets. -/
def inner (s : SourceText) (n : Node) : String := s.between (s.start n + 1) (s.stop n - 1)

/-- The span of a node. -/
def span (s : SourceText) (n : Node) : Span where
  start := s.start n
  stop := s.stop n
  line := n.start.line + 1
  column := Text.columnAfter (s.chars.take (s.start n))

/-! ## Default exports -/

/-- The name that a node is. -/
def identifier (s : SourceText) (n : Node) : Identifier :=
  { span := s.span n, name := s.text n }

/-- A function, from its parts. -/
def function (s : SourceText) (n : Node) : Function :=
  let part (p : Node → Bool) := n.children.find? p
  let phrase (p : Phrase) := part fun m => m.kind == .phrase p
  { place := { span := s.span n }
    name := (part isName).map s.identifier
    isAsync := (part (isText "async")).isSome
    isGenerator := (part (isText "*")).isSome
    typeParameters := (phrase .typeParameters).map s.text
    parameters := ((phrase .formalParameters).map s.inner).getD ""
    returnType := (part isReturnType).map s.text
    body := ((phrase .statementBlock).map s.inner).getD "" }

/-- A declaration that is kept as text. -/
def declaration (s : SourceText) (n : Node) (kind : String) : DefaultDeclaration :=
  .text { place := { span := s.span n }, kind, code := s.text n }

/-- What is exported: the first node behind the word `default` that is no comment. -/
def exported? (n : Node) : Option Node :=
  match n.children.dropWhile fun m => !isText "default" m with
  | [] => none
  | _ :: rest => rest.find? fun m => m.kind.isNamed && !isTrivia m

/-- The export of a node. -/
def exportOf (s : SourceText) (place : Placement) (target : Node) : ModuleItem :=
  if isFunction target then .exportDeclaration place (.function (s.function target))
  else if isClass target then .exportDeclaration place (s.declaration target "class")
  else if target.isDeclaration then
    .exportDeclaration place (s.declaration target target.kind.name)
  else if isName target then .exportExpression place (.identifier (s.identifier target))
  else .exportExpression place (.raw (s.span target) (s.text target))

/-! ## Items -/

/-- What is exported by a node that is a default export. -/
def defaultExport? (n : Node) : Option Node :=
  if n.kind == .phrase .exportStatement then exported? n else none

/-- The item of a node, with the text that stands before it. -/
def item (s : SourceText) (trivia : String) (n : Node) : ModuleItem :=
  let place : Placement := ⟨s.span n, trivia⟩
  match defaultExport? n with
  | some target => s.exportOf place target
  | none => .statement (.raw place (s.text n))

/-- The items of nodes; `cursor` is where the item before them ends. The last result is where the
last item ends. -/
def items (s : SourceText) (cursor : Nat) : List Node → List ModuleItem × Nat
  | [] => ([], cursor)
  | n :: ns =>
    let (rest, last) := s.items (s.stop n) ns
    (s.item (s.between cursor (s.start n)) n :: rest, last)

/-- The nodes that become items. -/
def itemNodes (root : Node) : List Node :=
  root.children.filter fun n => n.kind.isNamed && !isTrivia n

/-- The module of a tree. -/
def module (s : SourceText) (root : Node) : Module :=
  let (body, last) := s.items 0 (itemNodes root)
  { body, trailingTrivia := some (s.between last s.chars.length) }

end SourceText

/-! ## Reading -/

/-- A way to get the root node of a text's tree; not every text need have one. -/
abbrev TreeReader := List Char → Option Node

/-- The grammar of the sources. -/
def grammar : Knowledge := .ofRules

/-- The module of a tree, or its first error. -/
def moduleOfTree (source : List Char) (root : Node) : Except SyntaxError Module :=
  if root.hasError then .error (.ofNode source (root.firstError?.getD root))
  else .ok ((SourceText.ofChars source).module root)

/-- Read a module from the tree of its source. A source without a tree is refused at its start. -/
def readModuleBy (trees : TreeReader) (source : String) : Except SyntaxError Module :=
  match trees source.toList with
  | some root => moduleOfTree source.toList root
  | none => .error ⟨.unexpectedEnd, 1, 1⟩

/-- Read a module by the grammar. -/
def readModule (source : String) : Except SyntaxError Module := readModuleBy grammar.read source

end CustomElement.Syntax
