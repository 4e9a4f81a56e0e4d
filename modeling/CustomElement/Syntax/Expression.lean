-- SUMMARY: Expressions, with the places of the source that they were read from.

/-! ## Expressions

What may appear as a value. An expression that nobody needs to look into is kept as its text. A
node that was read has a span, a node that was built has none. -/

namespace CustomElement.Syntax

/-- A stretch of the source: character offsets from zero, line and column of the start from one.
Spans that come from outside may hold any integers. -/
structure Span where
  start : Int
  stop : Int
  line : Int
  column : Int
  deriving DecidableEq, Repr, Inhabited

/-- A name. -/
structure Identifier where
  span : Option Span := none
  name : String
  deriving DecidableEq, Repr, Inhabited

mutual

/-- An expression. -/
inductive Expression where
  | identifier (id : Identifier)
  | stringLiteral (span : Option Span) (value : String)
  /-- The word `this`. -/
  | self (span : Option Span)
  /-- An expression kept as text. -/
  | raw (span : Option Span) (code : String)
  | object (span : Option Span) (properties : List Property)
  | member (span : Option Span) (object : Expression) (property : Identifier)
  | call (span : Option Span) (callee : Expression) (arguments : List Expression)

/-- A key of an object with its value. -/
inductive Property where
  | mk (span : Option Span) (key : Identifier) (value : Expression)

end

namespace Expression

instance : Inhabited Expression := ⟨.self none⟩

/-- Where the expression was read. -/
def span : Expression → Option Span
  | identifier id => id.span
  | stringLiteral s _ | self s | raw s _ | object s _ | member s _ _ | call s _ _ => s

/-- A name without a span, as an expression. -/
def named (name : String) : Expression := .identifier { name }

end Expression

/-- Where the property was read. -/
def Property.span : Property → Option Span
  | mk s _ _ => s

end CustomElement.Syntax
