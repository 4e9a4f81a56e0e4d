-- SUMMARY: Nodes and plans as JSON values, with every field.
import CustomElement.Element.Plan
import CustomElement.Json.Value
import CustomElement.Syntax.Node

/-! ## Nodes as JSON

A node is an object with the name of its kind as `type` and all its fields. What is absent is
`null`. Spans alone have no `type`. -/

namespace CustomElement.Interchange

open Syntax Json

/-- A text or `null`. -/
def dumpText (s : Option String) : Value := (s.map Value.string).getD .null

/-- A span. -/
def dumpSpan (s : Span) : Value :=
  .object [("start", .int s.start), ("end", .int s.stop), ("line", .int s.line),
    ("column", .int s.column)]

/-- The fields of every node. -/
def nodeFields (span : Option Span) (kind : String) : List (String × Value) :=
  [("span", (span.map dumpSpan).getD .null), ("type", .string kind)]

/-- The fields of every item of a body. -/
def itemFields (p : Placement) (kind : String) : List (String × Value) :=
  [("span", (p.span.map dumpSpan).getD .null), ("leading_trivia", dumpText p.leadingTrivia),
    ("type", .string kind)]

/-- A name. -/
def dumpIdentifier (id : Identifier) : Value :=
  .object (nodeFields id.span "Identifier" ++ [("name", .string id.name)])

/-- A name or `null`. -/
def dumpName (id : Option Identifier) : Value := (id.map dumpIdentifier).getD .null

/-! ## Expressions -/

mutual

/-- An expression. -/
def dumpExpression : Expression → Value
  | .identifier id => dumpIdentifier id
  | .stringLiteral s value =>
    .object (nodeFields s "StringLiteral" ++ [("value", .string value)])
  | .self s => .object (nodeFields s "ThisExpression")
  | .raw s code => .object (nodeFields s "RawExpression" ++ [("code", .string code)])
  | .object s ps =>
    .object (nodeFields s "ObjectExpression" ++ [("properties", .array (dumpProperties ps))])
  | .member s object property =>
    .object (nodeFields s "MemberExpression" ++
      [("object", dumpExpression object), ("property", dumpIdentifier property)])
  | .call s callee arguments =>
    .object (nodeFields s "CallExpression" ++
      [("callee", dumpExpression callee), ("arguments", .array (dumpExpressions arguments))])

/-- A property. -/
def dumpProperty : Property → Value
  | .mk s key value =>
    .object (nodeFields s "Property" ++
      [("key", dumpIdentifier key), ("value", dumpExpression value)])

/-- Expressions. -/
def dumpExpressions : List Expression → List Value
  | [] => []
  | e :: es => dumpExpression e :: dumpExpressions es

/-- Properties. -/
def dumpProperties : List Property → List Value
  | [] => []
  | p :: ps => dumpProperty p :: dumpProperties ps

end

/-- An expression or `null`. -/
def dumpOptional (e : Option Expression) : Value :=
  match e with
  | none => .null
  | some e => dumpExpression e

/-! ## Statements and declarations -/

/-- A function. -/
def dumpFunction (f : Function) : Value :=
  .object (itemFields f.place "FunctionDeclaration" ++
    [("id", dumpName f.name), ("is_async", .bool f.isAsync),
      ("is_generator", .bool f.isGenerator), ("type_params", dumpText f.typeParameters),
      ("params", .string f.parameters), ("return_type", dumpText f.returnType),
      ("body", .string f.body)])

mutual

/-- A statement. -/
def dumpStatement : Statement → Value
  | .raw p code => .object (itemFields p "RawStatement" ++ [("code", .string code)])
  | .binding p kind name value =>
    .object (itemFields p "VariableDeclaration" ++
      [("kind", .string kind.word), ("id", dumpIdentifier name), ("init", dumpOptional value)])
  | .expression p value =>
    .object (itemFields p "ExpressionStatement" ++ [("expression", dumpExpression value)])
  | .function f => dumpFunction f
  | .classDeclaration c => dumpClass c

/-- A class. -/
def dumpClass : ClassDeclaration → Value
  | .mk p name superClass constructors =>
    .object (itemFields p "ClassDeclaration" ++
      [("id", dumpIdentifier name), ("super_class", dumpOptional superClass),
        ("body", .array (dumpConstructors constructors))])

/-- A constructor. -/
def dumpConstructor : Constructor → Value
  | .mk s parameters body =>
    .object (nodeFields s "Constructor" ++
      [("params", .array (parameters.map dumpIdentifier)),
        ("body", .array (dumpStatements body))])

/-- Constructors. -/
def dumpConstructors : List Constructor → List Value
  | [] => []
  | c :: cs => dumpConstructor c :: dumpConstructors cs

/-- Statements. -/
def dumpStatements : List Statement → List Value
  | [] => []
  | s :: ss => dumpStatement s :: dumpStatements ss

end

/-- A declaration that is kept as text. -/
def dumpTextDeclaration (t : TextDeclaration) : Value :=
  .object (itemFields t.place "OpaqueDeclaration" ++
    [("kind", .string t.kind), ("code", .string t.code)])

/-- A declaration. -/
def dumpDeclaration : DefaultDeclaration → Value
  | .function f => dumpFunction f
  | .classDeclaration c => dumpClass c
  | .text t => dumpTextDeclaration t

/-! ## Items and programs -/

/-- An item. -/
def dumpItem : ModuleItem → Value
  | .exportDeclaration p d =>
    .object (itemFields p "ExportDefaultDeclaration" ++ [("declaration", dumpDeclaration d)])
  | .exportExpression p e =>
    .object (itemFields p "ExportDefaultExpression" ++ [("expression", dumpExpression e)])
  | .statement s => dumpStatement s
  | .text t => dumpTextDeclaration t

/-- A program of a kind. -/
def dumpProgram (span : Option Span) (kind : String) (body : List Value)
    (trailing : Option String) : Value :=
  .object (nodeFields span kind ++
    [("body", .array body), ("trailing_trivia", dumpText trailing)])

/-- A module. -/
def dumpModule (m : Module) : Value :=
  dumpProgram m.span "Module" (m.body.map dumpItem) m.trailingTrivia

/-- A script. -/
def dumpScript (s : Script) : Value :=
  dumpProgram s.span "Script" (s.body.map dumpStatement) s.trailingTrivia

/-- A node of any kind. -/
def dumpNode : AnyNode → Value
  | .span s => dumpSpan s
  | .bare s => .object [("span", (s.map dumpSpan).getD .null)]
  | .bareItem p =>
    .object [("span", (p.span.map dumpSpan).getD .null), ("leading_trivia", dumpText p.leadingTrivia)]
  | .expression e => dumpExpression e
  | .property p => dumpProperty p
  | .constructor c => dumpConstructor c
  | .item i => dumpItem i
  | .module m => dumpModule m
  | .script s => dumpScript s

/-! ## Plans -/

/-- A plan, with the component by its name, or `null`. -/
def dumpPlan : Option Element.Plan → Value
  | none => .null
  | some p => .object [("index", .int p.index), ("component", .string p.component.name),
      ("tag_name", .string p.tagName), ("class_name", .string p.className)]

end CustomElement.Interchange
