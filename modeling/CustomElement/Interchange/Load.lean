-- SUMMARY: Nodes from JSON values, with all problems of a value that is no node.
import CustomElement.Json.Validation
import CustomElement.Syntax.Node

/-! ## Nodes from JSON

Every value is first read as whatever it could be, from the inside out: as an expression, as a
property, as a statement, as a constructor. A node then picks the readings of its fields that it
needs. Fields that have a default may be absent, fields that no kind knows are ignored, and
problems come in the order of the fields. -/

namespace CustomElement.Interchange

open Syntax Json

/-! ## Readings -/

/-- What a value and the values in it can be read as. -/
structure Reading where
  value : Value
  /-- The items of an array. -/
  items : List Reading := []
  /-- The fields of an object. -/
  fields : List (String × Reading) := []
  expression : Checked Expression := .fail .noAlternative
  property : Checked Property := .fail .noObject
  statement : Checked Statement := .fail .noAlternative
  constructor : Checked Constructor := .fail .noObject

instance : Inhabited Reading := ⟨{ value := .null }⟩

/-- The fields of an object, read. -/
abbrev Fields := List (String × Reading)

/-- Is a value `null`? -/
def isNull : Value → Bool
  | .null => true
  | _ => false

namespace Fields

/-- A field that must be there. -/
def required {α : Type} (fs : Fields) (name : String) (read : Reading → Checked α) : Checked α :=
  Checked.within (.field name) <|
    match find? fs name with
    | some r => read r
    | none => .fail .missing

/-- A field with a default. -/
def withDefault {α : Type} (fs : Fields) (name : String) (d : α) (read : Reading → Checked α) :
    Checked α :=
  match find? fs name with
  | some r => Checked.within (.field name) (read r)
  | none => .ok d

/-- A field that may be absent or `null`. -/
def optional {α : Type} (fs : Fields) (name : String) (read : Reading → Checked α) :
    Checked (Option α) :=
  fs.withDefault name none fun r => if isNull r.value then .ok none else some <$> read r

/-- A field that holds a list. -/
def list {α : Type} (fs : Fields) (name : String) (read : Reading → Checked α) :
    Checked (List α) :=
  fs.withDefault name [] fun r =>
    match r.value with
    | .array _ => Checked.all 0 (r.items.map read)
    | _ => .fail .noList

/-- The name of the kind, where the position says which it must be. -/
def kind (fs : Fields) (name : String) : Checked Unit :=
  fs.withDefault "type" () fun r => r.value.asWord [(name, ())]

end Fields

/-! ## Values in fields -/

/-- A text. -/
def textOf (r : Reading) : Checked String := r.value.asString

/-- A truth value. -/
def boolOf (r : Reading) : Checked Bool := r.value.asBool

/-- A whole number. -/
def intOf (r : Reading) : Checked Int := r.value.asInt

/-- A value that must be an object, read by its fields. -/
def asKind {α : Type} (read : Fields → Checked α) (r : Reading) : Checked α :=
  match r.value with
  | .object _ => read r.fields
  | _ => .fail .noObject

/-- The alternative that the field `type` names. -/
def byKind {α : Type} (choose : String → Option (Fields → Checked α)) (fs : Fields) :
    Checked α :=
  match find? fs "type" with
  | none => .fail .tagMissing
  | some r =>
    match r.value with
    | .string name =>
      match choose name with
      | some read => Checked.within (.field name) (read fs)
      | none => .fail .tagUnknown
    | _ => .fail .tagUnknown

/-- A value that must be one of several kinds of objects. -/
def asAlternative {α : Type} (choose : String → Option (Fields → Checked α)) (r : Reading) :
    Checked α :=
  match r.value with
  | .object _ => byKind choose r.fields
  | _ => .fail .noAlternative

/-! ## Spans, places and names -/

/-- A span from its fields. -/
def spanOfFields (fs : Fields) : Checked Span :=
  Span.mk <$> fs.required "start" intOf <*> fs.required "end" intOf <*> fs.required "line" intOf
    <*> fs.required "column" intOf

/-- The field `span`. -/
def spanField (fs : Fields) : Checked (Option Span) := fs.optional "span" (asKind spanOfFields)

/-- The fields of every item of a body. -/
def placeFields (fs : Fields) : Checked Placement :=
  Placement.mk <$> spanField fs <*> fs.optional "leading_trivia" textOf

/-- A node of a kind, with its span. -/
def nodeOf {α : Type} (kind : String) (make : Option Span → α) (fs : Fields) : Checked α :=
  (fun s _ => make s) <$> spanField fs <*> fs.kind kind

/-- An item of a kind, with its place. -/
def itemOf {α : Type} (kind : String) (make : Placement → α) (fs : Fields) : Checked α :=
  (fun p _ => make p) <$> placeFields fs <*> fs.kind kind

/-- A name from its fields. -/
def identifierOfFields (fs : Fields) : Checked Identifier :=
  nodeOf "Identifier" Identifier.mk fs <*> fs.required "name" textOf

/-- A name. -/
def identifierOf : Reading → Checked Identifier := asKind identifierOfFields

/-- The words that introduce variables. -/
def bindingWords : List (String × BindingKind) :=
  [BindingKind.constBinding, .letBinding, .varBinding].map fun k => (k.word, k)

/-! ## Kinds by their fields -/

/-- A string literal. -/
def stringLiteralOfFields (fs : Fields) : Checked Expression :=
  nodeOf "StringLiteral" Expression.stringLiteral fs <*> fs.required "value" textOf

/-- The word `this`. -/
def selfOfFields (fs : Fields) : Checked Expression := nodeOf "ThisExpression" Expression.self fs

/-- An expression that is kept as text. -/
def rawExpressionOfFields (fs : Fields) : Checked Expression :=
  nodeOf "RawExpression" Expression.raw fs <*> fs.required "code" textOf

/-- A property. -/
def propertyOfFields (fs : Fields) : Checked Property :=
  nodeOf "Property" Property.mk fs <*> fs.required "key" identifierOf
    <*> fs.required "value" (·.expression)

/-- An object. -/
def objectOfFields (fs : Fields) : Checked Expression :=
  nodeOf "ObjectExpression" Expression.object fs <*> fs.list "properties" (·.property)

/-- A member. -/
def memberOfFields (fs : Fields) : Checked Expression :=
  nodeOf "MemberExpression" Expression.member fs <*> fs.required "object" (·.expression)
    <*> fs.required "property" identifierOf

/-- A call. -/
def callOfFields (fs : Fields) : Checked Expression :=
  nodeOf "CallExpression" Expression.call fs <*> fs.required "callee" (·.expression)
    <*> fs.list "arguments" (·.expression)

/-- A statement that is kept as text. -/
def rawStatementOfFields (fs : Fields) : Checked Statement :=
  itemOf "RawStatement" Statement.raw fs <*> fs.required "code" textOf

/-- A variable. -/
def bindingOfFields (fs : Fields) : Checked Statement :=
  itemOf "VariableDeclaration" Statement.binding fs
    <*> fs.withDefault "kind" .constBinding (fun r => r.value.asWord bindingWords)
    <*> fs.required "id" identifierOf <*> fs.optional "init" (·.expression)

/-- An expression as a statement. -/
def expressionStatementOfFields (fs : Fields) : Checked Statement :=
  itemOf "ExpressionStatement" Statement.expression fs
    <*> fs.required "expression" (·.expression)

/-- A function. -/
def functionOfFields (fs : Fields) : Checked Function :=
  itemOf "FunctionDeclaration" Function.mk fs <*> fs.optional "id" identifierOf
    <*> fs.withDefault "is_async" false boolOf <*> fs.withDefault "is_generator" false boolOf
    <*> fs.optional "type_params" textOf <*> fs.withDefault "params" "" textOf
    <*> fs.optional "return_type" textOf <*> fs.withDefault "body" "" textOf

/-- A constructor. -/
def constructorOfFields (fs : Fields) : Checked Constructor :=
  nodeOf "Constructor" Constructor.mk fs <*> fs.list "params" identifierOf
    <*> fs.list "body" (·.statement)

/-- A class. -/
def classOfFields (fs : Fields) : Checked ClassDeclaration :=
  itemOf "ClassDeclaration" ClassDeclaration.mk fs <*> fs.required "id" identifierOf
    <*> fs.optional "super_class" (·.expression) <*> fs.list "body" (·.constructor)

/-- A declaration that is kept as text. -/
def textDeclarationOfFields (fs : Fields) : Checked TextDeclaration :=
  itemOf "OpaqueDeclaration" TextDeclaration.mk fs <*> fs.required "kind" textOf
    <*> fs.required "code" textOf

/-! ## Alternatives -/

/-- The kinds of expressions. -/
def expressionKind : String → Option (Fields → Checked Expression)
  | "Identifier" => some fun fs => .identifier <$> identifierOfFields fs
  | "StringLiteral" => some stringLiteralOfFields
  | "ThisExpression" => some selfOfFields
  | "RawExpression" => some rawExpressionOfFields
  | "ObjectExpression" => some objectOfFields
  | "MemberExpression" => some memberOfFields
  | "CallExpression" => some callOfFields
  | _ => none

/-- The kinds of statements. -/
def statementKind : String → Option (Fields → Checked Statement)
  | "RawStatement" => some rawStatementOfFields
  | "VariableDeclaration" => some bindingOfFields
  | "ExpressionStatement" => some expressionStatementOfFields
  | "FunctionDeclaration" => some fun fs => .function <$> functionOfFields fs
  | "ClassDeclaration" => some fun fs => .classDeclaration <$> classOfFields fs
  | _ => none

/-! ## Readings of values -/

/-- The readings of an object by those of its fields. -/
def Reading.ofFields (v : Value) (fs : Fields) : Reading where
  value := v
  fields := fs
  expression := byKind expressionKind fs
  property := propertyOfFields fs
  statement := byKind statementKind fs
  constructor := constructorOfFields fs

mutual

/-- The readings of a value. -/
def Reading.of : Value → Reading
  | .object fs => .ofFields (.object fs) (readFields fs)
  | .array vs => { value := .array vs, items := readItems vs }
  | v => { value := v }

/-- The readings of items. -/
def readItems : List Value → List Reading
  | [] => []
  | v :: vs => .of v :: readItems vs

/-- The readings of fields. -/
def readFields : List (String × Value) → List (String × Reading)
  | [] => []
  | (name, v) :: fs => (name, .of v) :: readFields fs

end

/-! ## Items and programs -/

/-- The kinds of declarations. -/
def declarationKind : String → Option (Fields → Checked DefaultDeclaration)
  | "FunctionDeclaration" => some fun fs => .function <$> functionOfFields fs
  | "ClassDeclaration" => some fun fs => .classDeclaration <$> classOfFields fs
  | "OpaqueDeclaration" => some fun fs => .text <$> textDeclarationOfFields fs
  | _ => none

/-- An exported declaration. -/
def exportDeclarationOfFields (fs : Fields) : Checked ModuleItem :=
  itemOf "ExportDefaultDeclaration" ModuleItem.exportDeclaration fs
    <*> fs.required "declaration" (asAlternative declarationKind)

/-- An exported expression. -/
def exportExpressionOfFields (fs : Fields) : Checked ModuleItem :=
  itemOf "ExportDefaultExpression" ModuleItem.exportExpression fs
    <*> fs.required "expression" (·.expression)

/-- The kinds of items. -/
def itemKind : String → Option (Fields → Checked ModuleItem)
  | "ExportDefaultDeclaration" => some exportDeclarationOfFields
  | "ExportDefaultExpression" => some exportExpressionOfFields
  | name => (statementKind name).map fun read fs => .statement <$> read fs

/-- A module. -/
def moduleOfFields (fs : Fields) : Checked Module :=
  nodeOf "Module" Syntax.Module.mk fs <*> fs.list "body" (asAlternative itemKind)
    <*> fs.optional "trailing_trivia" textOf

/-- A script. -/
def scriptOfFields (fs : Fields) : Checked Script :=
  nodeOf "Script" Script.mk fs <*> fs.list "body" (·.statement)
    <*> fs.optional "trailing_trivia" textOf

/-- The kinds of programs. -/
def programKind : String → Option (Fields → Checked AnyNode)
  | "Module" => some fun fs => .module <$> moduleOfFields fs
  | "Script" => some fun fs => .script <$> scriptOfFields fs
  | _ => none

/-! ## Nodes of any kind -/

/-- The kinds of nodes. -/
def nodeKind (name : String) : Option (Fields → Checked AnyNode) :=
  match name with
  | "Span" => some fun fs => .span <$> spanOfFields fs
  | "Node" => some fun fs => .bare <$> spanField fs
  | "Item" => some fun fs => .bareItem <$> placeFields fs
  | "Property" => some fun fs => .property <$> propertyOfFields fs
  | "Constructor" => some fun fs => .constructor <$> constructorOfFields fs
  | "OpaqueDeclaration" => some fun fs => (.item ∘ .text) <$> textDeclarationOfFields fs
  | _ =>
    programKind name
    <|> (expressionKind name).map (fun read fs => .expression <$> read fs)
    <|> (itemKind name).map (fun read fs => .item <$> read fs)

/-- A value as a node of a kind, or as one of a family of kinds; `none` if there is no such kind. -/
def loadAs (name : String) (v : Value) : Option (Checked AnyNode) :=
  let r := Reading.of v
  match name with
  | "Expression" => some (.expression <$> r.expression)
  | "Statement" => some ((.item ∘ .statement) <$> r.statement)
  | "DefaultDeclaration" =>
    some ((.item ∘ DefaultDeclaration.toItem) <$> asAlternative declarationKind r)
  | "ModuleItem" => some (.item <$> asAlternative itemKind r)
  | "Program" => some (asAlternative programKind r)
  | _ => (nodeKind name).map fun read => asKind read r

/-- A module. -/
def loadModule (v : Value) : Checked Module := asKind moduleOfFields (Reading.of v)

end CustomElement.Interchange
