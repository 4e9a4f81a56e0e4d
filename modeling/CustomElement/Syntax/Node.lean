-- SUMMARY: A node of any kind, and the names of the kinds.
import CustomElement.Syntax.Module

/-! ## Nodes of any kind

Some operations take whatever node they are given and refuse those that they cannot treat; a
refusal names the kind of the node. -/

namespace CustomElement.Syntax

/-- A node of any kind. -/
inductive AnyNode where
  | span (s : Span)
  /-- A node of no further kind. -/
  | bare (span : Option Span)
  /-- An item of a body, of no further kind. -/
  | bareItem (place : Placement)
  | expression (e : Expression)
  | property (p : Property)
  | constructor (c : Constructor)
  | item (i : ModuleItem)
  | module (m : Module)
  | script (s : Script)

/-- The name of an expression's kind. -/
def Expression.kindName : Expression → String
  | .identifier _ => "Identifier"
  | .stringLiteral .. => "StringLiteral"
  | .self _ => "ThisExpression"
  | .raw .. => "RawExpression"
  | .object .. => "ObjectExpression"
  | .member .. => "MemberExpression"
  | .call .. => "CallExpression"

/-- The name of a statement's kind. -/
def Statement.kindName : Statement → String
  | .raw .. => "RawStatement"
  | .binding .. => "VariableDeclaration"
  | .expression .. => "ExpressionStatement"
  | .function _ => "FunctionDeclaration"
  | .classDeclaration _ => "ClassDeclaration"

/-- The name of an item's kind. -/
def ModuleItem.kindName : ModuleItem → String
  | .exportDeclaration .. => "ExportDefaultDeclaration"
  | .exportExpression .. => "ExportDefaultExpression"
  | .statement s => s.kindName
  | .text _ => "OpaqueDeclaration"

/-- The name of a node's kind. -/
def AnyNode.kindName : AnyNode → String
  | span _ => "Span"
  | bare _ => "Node"
  | bareItem _ => "Item"
  | expression e => e.kindName
  | property _ => "Property"
  | constructor _ => "Constructor"
  | item i => i.kindName
  | module _ => "Module"
  | script _ => "Script"

end CustomElement.Syntax
