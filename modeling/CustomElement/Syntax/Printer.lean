-- SUMMARY: The text of a node, printed from its structure or copied from the source.
import CustomElement.Syntax.Literal
import CustomElement.Syntax.Node
import CustomElement.Text.Lines
import CustomElement.Text.Slice

/-! ## Printing

Expressions and statements are printed from their structure, with indentation by two spaces and
string literals in double quotes. An item of a body that was read is copied from the source where
the source is at hand. -/

namespace CustomElement.Syntax

/-! ## Expressions -/

/-- Must the expression stand in parentheses before a dot or an argument list? Text may be any
expression, and an object would be taken for a block. -/
def Expression.isLoose : Expression → Bool
  | .raw .. | .object .. => true
  | _ => false

/-- The text of an operand: in parentheses if need be. -/
def operand (loose : Bool) (code : String) : String :=
  if loose then "(" ++ code ++ ")" else code

mutual

/-- The text of an expression. -/
def Expression.print : Expression → String
  | .identifier id => id.name
  | .stringLiteral _ value => stringLiteral value
  | .self _ => "this"
  | .raw _ code => code
  | .object _ [] => "\x7b\x7d"
  | .object _ (p :: ps) => "\x7b " ++ ", ".intercalate (p.print :: printProperties ps) ++ " \x7d"
  | .member _ object property => operand object.isLoose object.print ++ "." ++ property.name
  | .call _ callee arguments =>
    operand callee.isLoose callee.print ++ "(" ++ ", ".intercalate (printExpressions arguments) ++ ")"

/-- The text of a property. -/
def Property.print : Property → String
  | .mk _ key value => key.name ++ ": " ++ value.print

/-- The texts of expressions. -/
def printExpressions : List Expression → List String
  | [] => []
  | e :: es => e.print :: printExpressions es

/-- The texts of properties. -/
def printProperties : List Property → List String
  | [] => []
  | p :: ps => p.print :: printProperties ps

end

/-! ## Statements -/

/-- A line, indented by one step unless it is empty. -/
def indentLine (line : List Char) : List Char :=
  if line.isEmpty then line else ' ' :: ' ' :: line

/-- The code with its lines indented by one step. -/
def indent (code : String) : String :=
  String.ofList (Text.joinChars ['\n'] ((Text.linesOf code.toList).map indentLine))

/-- A head with a body in braces, one part of it after the other, each on lines of its own. -/
def block (head : String) (parts : List String) : String :=
  if parts.isEmpty then head ++ " \x7b\x7d"
  else head ++ " \x7b\n" ++ "\n".intercalate (parts.map indent) ++ "\n\x7d"

/-- The text of a function. Type parameters and return type that are empty are left out. -/
def Function.print (f : Function) : String :=
  (if f.isAsync then "async " else "") ++ "function" ++ (if f.isGenerator then "*" else "") ++ " " ++
    (f.name.map Identifier.name).getD "" ++ f.typeParameters.getD "" ++
    "(" ++ f.parameters ++ ")" ++ f.returnType.getD "" ++ " \x7b" ++ f.body ++ "\x7d"

mutual

/-- The text of a statement. -/
def Statement.print : Statement → String
  | .raw _ code => code
  | .binding _ kind name none => kind.word ++ " " ++ name.name ++ ";"
  | .binding _ kind name (some value) =>
    kind.word ++ " " ++ name.name ++ " = " ++ value.print ++ ";"
  | .expression _ value => value.print ++ ";"
  | .function f => f.print
  | .classDeclaration c => c.print

/-- The text of a class. -/
def ClassDeclaration.print : ClassDeclaration → String
  | .mk _ name superClass constructors =>
    let heritage := match superClass with
      | none => ""
      | some e => " extends " ++ operand e.isLoose e.print
    block ("class " ++ name.name ++ heritage) (printConstructors constructors)

/-- The text of a constructor. -/
def Constructor.print : Constructor → String
  | .mk _ parameters body =>
    block ("constructor(" ++ ", ".intercalate (parameters.map Identifier.name) ++ ")")
      (printStatements body)

/-- The texts of constructors. -/
def printConstructors : List Constructor → List String
  | [] => []
  | c :: cs => c.print :: printConstructors cs

/-- The texts of statements. -/
def printStatements : List Statement → List String
  | [] => []
  | s :: ss => s.print :: printStatements ss

end

/-! ## Items and programs -/

/-- The text of a declaration. -/
def DefaultDeclaration.print : DefaultDeclaration → String
  | .function f => f.print
  | .classDeclaration c => c.print
  | .text t => t.code

/-- The text of an item, printed from its structure. -/
def ModuleItem.print : ModuleItem → String
  | .exportDeclaration _ d => "export default " ++ d.print
  | .exportExpression _ e => "export default " ++ e.print ++ ";"
  | .statement s => s.print
  | .text t => t.code

/-- What is printed of a node with a span: the source there if the source is at hand, else the
code. -/
def copyOr (source : Option String) (span : Option Span) (code : String) : String :=
  match source, span with
  | some s, some p => Text.slice s p.start p.stop
  | _, _ => code

/-- The text of an item in a body. -/
def ModuleItem.printFrom (source : Option String) (i : ModuleItem) : String :=
  copyOr source i.place.span i.print

/-- What stands before an item: its trivia, else a line end unless the item is the first. -/
def separator (first : Bool) (trivia : Option String) : String :=
  match trivia with
  | some t => t
  | none => if first then "" else "\n"

/-- The text of items; `first` says that nothing stands before them. -/
def printItems (source : Option String) : Bool → List ModuleItem → String
  | _, [] => ""
  | first, i :: rest =>
    separator first i.place.leadingTrivia ++ i.printFrom source ++ printItems source false rest

/-- The text of a body with what stands behind it. -/
def printBody (source : Option String) (items : List ModuleItem) (trailing : Option String) :
    String :=
  printItems source true items ++ separator items.isEmpty trailing

/-- The text of a module. -/
def Module.print (m : Module) (source : Option String := none) : String :=
  printBody source m.body m.trailingTrivia

/-- The text of a script. -/
def Script.print (s : Script) (source : Option String := none) : String :=
  printBody source (s.body.map .statement) s.trailingTrivia

/-! ## Nodes of any kind -/

namespace AnyNode

/-- Why a node has no text. -/
inductive PrintError where
  /-- A node of the kind is never printed. -/
  | noText (kindName : String)
  /-- A span was to be copied from the source. -/
  | spanOfSpan
  deriving DecidableEq, Repr

/-- The reason in words. -/
def PrintError.message : PrintError → String
  | noText kindName => "Cannot emit node of type " ++ kindName
  | spanOfSpan => "'Span' object has no attribute 'span'"

/-- The text of a node. Spans have none, nor have nodes of no further kind. -/
def print (source : Option String) : AnyNode → Except PrintError String
  | span _ => .error (.noText "Span")
  | bare _ => .error (.noText "Node")
  | bareItem _ => .error (.noText "Item")
  | expression e => .ok e.print
  | property p => .ok p.print
  | constructor c => .ok c.print
  | item i => .ok i.print
  | module m => .ok (m.print source)
  | script s => .ok (s.print source)

/-- Where a node was read. -/
def place : AnyNode → Option Span
  | span _ => none
  | bare s => s
  | bareItem p => p.span
  | expression e => e.span
  | property p => p.span
  | constructor (.mk s _ _) => s
  | item i => i.place.span
  | module m => m.span
  | script s => s.span

/-- The text of a node in the place of an item. A node that is copied need have no text of its
own. -/
def printItem (source : Option String) (n : AnyNode) : Except PrintError String :=
  match n, source, n.place with
  | span _, some _, _ => .error .spanOfSpan
  | _, some s, some p => .ok (Text.slice s p.start p.stop)
  | _, _, _ => n.print source

end AnyNode

end CustomElement.Syntax
