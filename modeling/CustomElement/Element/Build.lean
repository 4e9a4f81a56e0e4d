-- SUMMARY: The class of an element and its registration, as syntax.
import CustomElement.Config.Settings
import CustomElement.Syntax.Module

/-! ## Generated code

An element is a class whose constructor calls the component and puts the result into a shadow root,
and a call that registers the class under the tag. None of it has a place in the source. -/

namespace CustomElement.Element

open Syntax Config

/-- The variable that holds the properties handed to the component. -/
def propsBinding : String := "__props"

/-- The variable that holds what the component returned. -/
def nodeBinding : String := "_n"

/-- A call of a function. -/
def callOf (callee : Expression) (arguments : List Expression) : Expression :=
  .call none callee arguments

/-- A member of an object. -/
def memberOf (object : Expression) (property : String) : Expression :=
  .member none object { name := property }

/-- A variable that is never assigned again. -/
def constant (name : String) (value : Expression) : Statement :=
  .binding {} .constBinding { name } (some value)

/-- The class to extend, if there is one. -/
def superClass (s : Settings) : Option Expression :=
  match s.baseClass with
  | some name => if name = "" then none else some (.named name)
  | none => none

/-- The shadow root that the constructor attaches. -/
def shadowRoot (s : Settings) : Expression :=
  callOf (memberOf (.self none) "attachShadow")
    [.object none [.mk none { name := "mode" } (.stringLiteral none s.shadowMode.word)]]

/-- The body of the constructor. Where a class is extended its constructor runs first: before that
`this` cannot be used. -/
def constructorBody (s : Settings) (component : String) : List Statement :=
  (if (superClass s).isSome then [.expression {} (callOf (.named "super") [])] else []) ++
  [constant propsBinding (.object none []),
    constant nodeBinding (callOf (.named component) [.named propsBinding]),
    .expression {} (callOf (memberOf (shadowRoot s) "appendChild") [.named nodeBinding])]

/-- The class of an element. -/
def buildClass (s : Settings) (component className : String) : ClassDeclaration :=
  .mk {} { name := className } (superClass s) [.mk none [] (constructorBody s component)]

/-- The call that registers an element. -/
def buildRegistration (s : Settings) (tag className : String) : Statement :=
  .expression {} (callOf (memberOf (.named s.registry) "define")
    [.stringLiteral none tag, .named className])

end CustomElement.Element
