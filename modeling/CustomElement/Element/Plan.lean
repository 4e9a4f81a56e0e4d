-- SUMMARY: The export that becomes an element, and the module with the element in its place.
import CustomElement.Element.Build
import CustomElement.Element.Name
import CustomElement.Syntax.Node
import CustomElement.Text.Slice

/-! ## Plans

The last default export of a module decides: it becomes an element if it names its component. The
element takes the place of the export in the body, and the text before the export stays before the
first new item. -/

namespace CustomElement.Element

open Syntax Config

/-- What will be generated for a module: the place of the export in the body, the component, and
the names of the element. A plan from outside may hold any index; one below zero counts from the
end of the body. -/
structure Plan where
  index : Int
  component : Identifier
  tagName : String
  className : String
  deriving DecidableEq, Repr

/-! ## Finding the export -/

/-- The component that a declaration names: functions do, if they have a name. -/
def declaredComponent? : DefaultDeclaration → Option Identifier
  | .function f => f.name
  | .classDeclaration _ | .text _ => none

/-- The component that an exported expression names: names do. -/
def expressedComponent? : Expression → Option Identifier
  | .identifier id => some id
  | _ => none

/-- The component that an item exports as default. -/
def component? : ModuleItem → Option Identifier
  | .exportDeclaration _ d => declaredComponent? d
  | .exportExpression _ e => expressedComponent? e
  | .statement _ | .text _ => none

/-- A node was to be taken for a default export. -/
structure NoDefaultExport where
  kindName : String

/-- The reason in words. -/
def NoDefaultExport.message (e : NoDefaultExport) : String :=
  e.kindName ++ " is not a default export"

/-- The component that a node exports as default; other nodes are refused. -/
def componentOf (n : AnyNode) : Except NoDefaultExport (Option Identifier) :=
  match n with
  | .item i => if i.isDefaultExport then .ok (component? i) else .error ⟨n.kindName⟩
  | _ => .error ⟨n.kindName⟩

/-- The last default export among items, with its number; the first item has the given one. -/
def lastExport? (first : Nat) : List ModuleItem → Option (Nat × ModuleItem)
  | [] => none
  | i :: rest =>
    match lastExport? (first + 1) rest with
    | some found => some found
    | none => if i.isDefaultExport then some (first, i) else none

/-- The plan for a component at a place. -/
def Plan.of (s : Settings) (index : Nat) (component : Identifier) : Plan where
  index := index
  component := component
  tagName := Element.tagName s.tagPrefix component.name
  className := Element.className s.classSuffix component.name

/-- The plan for a body. -/
def planBody (s : Settings) (body : List ModuleItem) : Option Plan :=
  (lastExport? 0 body).bind fun (index, i) => (component? i).map (Plan.of s index)

/-- The plan for a module; `none` if its last default export names no component. -/
def plan (s : Settings) (m : Module) : Option Plan := planBody s m.body

/-! ## Applying a plan -/

/-- The items that stay of an export: its declaration, if that is wanted. -/
def retained (s : Settings) : ModuleItem → List ModuleItem
  | .exportDeclaration _ d => if s.retainDeclaration then [d.toItem] else []
  | _ => []

/-- The items of the element. -/
def elementItems (s : Settings) (p : Plan) : List ModuleItem :=
  [.statement (.classDeclaration (buildClass s p.component.name p.className)),
    .statement (buildRegistration s p.tagName p.className),
    .exportExpression {} (.named p.className)]

/-- The items with other trivia before the first. -/
def leadWith (trivia : Option String) : List ModuleItem → List ModuleItem
  | [] => []
  | i :: rest => i.withTrivia trivia :: rest

/-- What takes the place of an export. -/
def replacement (s : Settings) (p : Plan) (original : ModuleItem) : List ModuleItem :=
  leadWith original.place.leadingTrivia (retained s original ++ elementItems s p)

/-- A list with the stretch from an index up to the next replaced. The stretch at the last item,
counted from the end, is empty and lies before that item. -/
def spliceAt {α : Type} (xs : List α) (index : Int) (new : List α) : List α :=
  let start := Text.placeOf xs.length index
  let stop := Text.placeOf xs.length (index + 1)
  xs.take start ++ new ++ xs.drop (max start stop)

/-- The item that an index names; one below zero counts from the end. -/
def itemAt? {α : Type} (xs : List α) (index : Int) : Option α :=
  if 0 ≤ index then xs[index.toNat]?
  else if 0 ≤ xs.length + index then xs[(xs.length + index).toNat]?
  else none

/-- The module with the element of a plan; `none` if the plan's index names no item. -/
def apply (s : Settings) (p : Plan) (m : Module) : Option Module :=
  (itemAt? m.body p.index).map fun original =>
    { m with body := spliceAt m.body p.index (replacement s p original) }

/-- The module with its element, or the module itself if there is no plan for it. -/
def transform (s : Settings) (m : Module) : Module :=
  match plan s m with
  | none => m
  | some p => (apply s p m).getD m

end CustomElement.Element
