-- SUMMARY: Statements, declarations, the items of a module, modules and scripts.
import CustomElement.Syntax.Expression

/-! ## Modules

A module is a list of items with the text between them. Only default exports are taken apart; any
other statement that was read is kept as its text. The remaining statements are those that the
generated code is made of. -/

namespace CustomElement.Syntax

/-- How an item stands in a body: where it was read, and the text of the source between it and the
item before. An item that was built has neither. -/
structure Placement where
  span : Option Span := none
  leadingTrivia : Option String := none
  deriving DecidableEq, Repr, Inhabited

/-- The word that introduces a variable. -/
inductive BindingKind where
  | constBinding
  | letBinding
  | varBinding
  deriving DecidableEq, Repr, Inhabited

/-- The word in the source. -/
def BindingKind.word : BindingKind → String
  | constBinding => "const"
  | letBinding => "let"
  | varBinding => "var"

/-- A function declaration. Parameters and body are the text inside their brackets; type parameters
and return type are kept as written. -/
structure Function where
  place : Placement := {}
  name : Option Identifier := none
  isAsync : Bool := false
  isGenerator : Bool := false
  typeParameters : Option String := none
  parameters : String := ""
  returnType : Option String := none
  body : String := ""
  deriving DecidableEq, Repr, Inhabited

mutual

/-- What may appear in a block or in the body of a constructor. -/
inductive Statement where
  /-- A statement kept as text. -/
  | raw (place : Placement) (code : String)
  | binding (place : Placement) (kind : BindingKind) (name : Identifier)
      (value : Option Expression)
  | expression (place : Placement) (value : Expression)
  | function (f : Function)
  | classDeclaration (c : ClassDeclaration)

/-- A class with its constructors. -/
inductive ClassDeclaration where
  | mk (place : Placement) (name : Identifier) (superClass : Option Expression)
      (constructors : List Constructor)

/-- A constructor. -/
inductive Constructor where
  | mk (span : Option Span) (parameters : List Identifier) (body : List Statement)

end

/-- A declaration that is not taken apart, with the name of its kind. -/
structure TextDeclaration where
  place : Placement := {}
  kind : String
  code : String
  deriving DecidableEq, Repr, Inhabited

/-- What may follow `export default` as a declaration. -/
inductive DefaultDeclaration where
  | function (f : Function)
  | classDeclaration (c : ClassDeclaration)
  | text (t : TextDeclaration)

/-- What may stand at the top level of a module. -/
inductive ModuleItem where
  | exportDeclaration (place : Placement) (declaration : DefaultDeclaration)
  | exportExpression (place : Placement) (value : Expression)
  | statement (s : Statement)
  /-- A declaration kept as text that stands alone. No module is read with one; it is what is left
  of an export whose declaration is retained. -/
  | text (t : TextDeclaration)

instance : Inhabited Statement := ⟨.raw {} ""⟩
instance : Inhabited ModuleItem := ⟨.statement default⟩

/-- A module. `trailingTrivia` is the text behind the last item. -/
structure Module where
  span : Option Span := none
  body : List ModuleItem := []
  trailingTrivia : Option String := none
  deriving Inhabited

/-- A script: a program without exports. -/
structure Script where
  span : Option Span := none
  body : List Statement := []
  trailingTrivia : Option String := none
  deriving Inhabited

/-! ## Placement -/

/-- Where a class was read, and what stood before it. -/
def ClassDeclaration.place : ClassDeclaration → Placement
  | mk p _ _ _ => p

/-- The class in another place. -/
def ClassDeclaration.moved (p : Placement) : ClassDeclaration → ClassDeclaration
  | mk _ name superClass constructors => mk p name superClass constructors

namespace Statement

/-- Where a statement was read, and what stood before it. -/
def place : Statement → Placement
  | raw p _ | binding p _ _ _ | expression p _ => p
  | function f => f.place
  | classDeclaration c => c.place

/-- The statement in another place. -/
def moved (p : Placement) : Statement → Statement
  | raw _ code => raw p code
  | binding _ kind name value => binding p kind name value
  | expression _ value => expression p value
  | function f => function { f with place := p }
  | classDeclaration c => classDeclaration (c.moved p)

end Statement

namespace DefaultDeclaration

/-- The declaration as an item of its own. -/
def toItem : DefaultDeclaration → ModuleItem
  | function f => .statement (.function f)
  | classDeclaration c => .statement (.classDeclaration c)
  | text t => .text t

end DefaultDeclaration

namespace ModuleItem

/-- Where an item was read, and what stood before it. -/
def place : ModuleItem → Placement
  | exportDeclaration p _ | exportExpression p _ => p
  | statement s => s.place
  | text t => t.place

/-- The item in another place. -/
def moved (p : Placement) : ModuleItem → ModuleItem
  | exportDeclaration _ d => exportDeclaration p d
  | exportExpression _ e => exportExpression p e
  | statement s => statement (s.moved p)
  | text t => text { t with place := p }

/-- The item after other trivia. -/
def withTrivia (trivia : Option String) (i : ModuleItem) : ModuleItem :=
  i.moved { i.place with leadingTrivia := trivia }

/-- Is the item a default export? -/
def isDefaultExport : ModuleItem → Bool
  | exportDeclaration .. | exportExpression .. => true
  | statement _ | text _ => false

end ModuleItem

end CustomElement.Syntax
