-- SUMMARY: When a name in generated code is caught by something that the generated code binds itself.
import Mathlib.Data.List.Basic
import CustomElement.Proofs.Element.Planning

/-! ## Names and what binds them

The constructor of an element binds constants of fixed names, and the class has a name that is put
together. Between them stand names from the source and from the settings. Nothing is renamed, so
there are names that do not reach what they are there for. They are found by looking at the names
that generated code mentions, in the order of its statements. -/

namespace CustomElement.Syntax

/-! ## Names that are mentioned -/

mutual

/-- The names that an expression looks up. Keys and members are not looked up; text is not looked
into. -/
def Expression.references : Expression → List String
  | .identifier id => [id.name]
  | .stringLiteral .. | .self _ | .raw .. => []
  | .object _ properties => propertyReferences properties
  | .member _ object _ => object.references
  | .call _ callee arguments => callee.references ++ expressionReferences arguments

/-- The names that expressions look up. -/
def expressionReferences : List Expression → List String
  | [] => []
  | e :: es => e.references ++ expressionReferences es

/-- The names that the values of properties look up. -/
def propertyReferences : List Property → List String
  | [] => []
  | .mk _ _ value :: ps => value.references ++ propertyReferences ps

end

/-- The class that a class extends. -/
def ClassDeclaration.superClass : ClassDeclaration → Option Expression
  | mk _ _ superClass _ => superClass

/-- The name of a class. -/
def ClassDeclaration.name : ClassDeclaration → String
  | mk _ name _ _ => name.name

/-- The constructors of a class. -/
def ClassDeclaration.constructors : ClassDeclaration → List Constructor
  | mk _ _ _ constructors => constructors

/-- The body of a constructor. -/
def Constructor.body : Constructor → List Statement
  | mk _ _ body => body

namespace Statement

/-- The names that a statement looks up when it runs. The constructors of a class run later. -/
def references : Statement → List String
  | binding _ _ _ (some value) => value.references
  | expression _ value => value.references
  | classDeclaration c => (c.superClass.map Expression.references).getD []
  | raw .. | function _ | binding _ _ _ none => []

/-- The name of the constant that a statement declares. -/
def constName? : Statement → Option String
  | binding _ .constBinding name _ => some name.name
  | _ => none

/-- What a statement calls for the value of a constant. -/
def callee? : Statement → Option Expression
  | binding _ .constBinding _ (some (.call _ callee _)) => some callee
  | _ => none

/-- The object whose method a statement calls. -/
def receiver? : Statement → Option Expression
  | expression _ (.call _ (.member _ object _) _) => some object
  | _ => none

end Statement

/-! ## Constants of a body -/

/-- The names of the constants that statements declare. -/
def constNames (body : List Statement) : List String := body.filterMap Statement.constName?

/-- Every use of a name stands behind a declaration of it. -/
def DeclaredFirst (name : String) (body : List Statement) : Prop :=
  ∀ earlier t later, body = earlier ++ t :: later → name ∈ t.references → name ∈ constNames earlier

theorem mem_constNames_cons {name : String} {t : Statement} {body : List Statement} :
    name ∈ constNames (t :: body) ↔ t.constName? = some name ∨ name ∈ constNames body := by
  simp only [constNames, List.mem_filterMap, List.mem_cons, exists_eq_or_imp]

theorem declaredFirst_nil (name : String) : DeclaredFirst name [] := by
  intro earlier t later hbody
  simp at hbody

/-- A first statement must not use the name; what follows may if the statement declares it. -/
theorem declaredFirst_cons {name : String} {t : Statement} {body : List Statement} :
    DeclaredFirst name (t :: body) ↔
      name ∉ t.references ∧ (t.constName? = some name ∨ DeclaredFirst name body) := by
  constructor
  · intro h
    have hfirst : name ∉ t.references := fun huse => by
      simpa [constNames] using h [] t body rfl huse
    refine ⟨hfirst, or_iff_not_imp_left.mpr ?_⟩
    intro hconst earlier u later hbody huse
    have hmem := h (t :: earlier) u later (by rw [hbody, List.cons_append]) huse
    exact (mem_constNames_cons.mp hmem).resolve_left hconst
  · rintro ⟨hfirst, hrest⟩ earlier u later hbody huse
    cases earlier with
    | nil =>
      obtain ⟨rfl, rfl⟩ := List.cons.inj hbody
      exact absurd huse hfirst
    | cons v earlier =>
      obtain ⟨rfl, rfl⟩ := List.cons.inj hbody
      rw [mem_constNames_cons]
      exact hrest.imp_right fun hrest => hrest earlier u later rfl huse

/-! ## Names of a class -/

namespace ClassDeclaration

/-- What the constructors call for their constants is not among these constants. -/
def CallsOutside (c : ClassDeclaration) : Prop :=
  ∀ k ∈ c.constructors, ∀ t ∈ k.body, ∀ callee, t.callee? = some callee →
    ∀ name ∈ callee.references, name ∉ constNames k.body

/-- The constructors use a name behind its declaration only. -/
def UsesDeclared (c : ClassDeclaration) (name : String) : Prop :=
  ∀ k ∈ c.constructors, DeclaredFirst name k.body

/-- What the class extends is not the class itself. -/
def ExtendsOther (c : ClassDeclaration) : Prop :=
  ∀ base, c.superClass = some base → c.name ∉ base.references

/-- The object that a registration of the class is called on is not the class itself. -/
def RegisteredElsewhere (c : ClassDeclaration) (registration : Statement) : Prop :=
  ∀ registry, registration.receiver? = some registry → c.name ∉ registry.references

end ClassDeclaration

end CustomElement.Syntax

namespace CustomElement.Element

open Syntax Config

/-! ## Names of generated code -/

variable {s : Settings} {component className tag : String}

theorem references_named (name : String) : (Expression.named name).references = [name] := by
  simp [Expression.named, Expression.references]

theorem references_callOf (callee : Expression) (arguments : List Expression) :
    (callOf callee arguments).references = callee.references ++ expressionReferences arguments := by
  simp [callOf, Expression.references]

theorem references_memberOf (object : Expression) (property : String) :
    (memberOf object property).references = object.references := by
  simp [memberOf, Expression.references]

theorem references_shadowRoot : (shadowRoot s).references = [] := by
  simp [shadowRoot, references_callOf, references_memberOf, Expression.references,
    expressionReferences, propertyReferences]

/-! ### The constructor -/

/-- The two constants are all that is declared. -/
theorem constNames_constructorBody :
    constNames (constructorBody s component) = [propsBinding, nodeBinding] := by
  simp only [constructorBody]
  split <;> rfl

/-- Only the component is called for a constant. -/
theorem callee?_of_mem_constructorBody {t : Statement} {callee : Expression}
    (ht : t ∈ constructorBody s component) (hcallee : t.callee? = some callee) :
    callee = .named component := by
  simp only [constructorBody, List.mem_append, List.mem_cons, List.not_mem_nil, or_false] at ht
  rcases ht with hsuper | rfl | rfl | rfl
  · split at hsuper
    · rw [List.mem_singleton.mp hsuper] at hcallee
      cases hcallee
    · cases hsuper
  · cases hcallee
  · exact (Option.some.inj hcallee).symm
  · cases hcallee

/-- A name is used in its own declaration, or before it, exactly where it is that of the component.
The first constant is declared before the component is called. -/
theorem declaredFirst_constructorBody {name : String} (hsuper : name ≠ "super") :
    DeclaredFirst name (constructorBody s component) ↔
      name = propsBinding ∨ name ≠ component := by
  have hcall : DeclaredFirst name
      [constant propsBinding (.object none []),
        constant nodeBinding (callOf (.named component) [.named propsBinding]),
        .expression {} (callOf (memberOf (shadowRoot s) "appendChild") [.named nodeBinding])] ↔
      name = propsBinding ∨ name ≠ component := by
    have hne : propsBinding ≠ nodeBinding := by decide
    simp only [declaredFirst_cons, declaredFirst_nil, references_callOf, references_memberOf,
      references_shadowRoot, references_named, Statement.references, Expression.references,
      expressionReferences, propertyReferences, constant, Statement.constName?, Option.some.injEq]
    grind
  simp only [constructorBody]
  split
  · rw [List.singleton_append, declaredFirst_cons, hcall]
    simp [Statement.references, references_callOf, references_named, Statement.constName?,
      expressionReferences, hsuper]
  · exact hcall

/-! ### The class and its registration -/

theorem callsOutside_buildClass_iff :
    (buildClass s component className).CallsOutside ↔
      component ≠ propsBinding ∧ component ≠ nodeBinding := by
  constructor
  · intro h
    have hnode : constant nodeBinding (callOf (.named component) [.named propsBinding]) ∈
        constructorBody s component := by
      simp [constructorBody]
    have houtside := h _ (List.mem_singleton.mpr rfl) _ hnode _ rfl component
      (by simp [references_named])
    simpa [Constructor.body, constNames_constructorBody] using houtside
  · rintro ⟨hprops, hnode⟩ k hk t ht callee hcallee name hname
    rw [List.mem_singleton.mp hk] at ht ⊢
    rw [callee?_of_mem_constructorBody ht hcallee, references_named, List.mem_singleton] at hname
    simp [Constructor.body, constNames_constructorBody, hname, hprops, hnode]

theorem usesDeclared_buildClass_iff {name : String} (hsuper : name ≠ "super") :
    (buildClass s component className).UsesDeclared name ↔
      name = propsBinding ∨ name ≠ component := by
  rw [← declaredFirst_constructorBody (s := s) hsuper]
  simp [ClassDeclaration.UsesDeclared, buildClass, ClassDeclaration.constructors, Constructor.body]

/-- Only a base of some name is extended. -/
theorem superClass_eq_some_iff {base : Expression} :
    superClass s = some base ↔
      ∃ name, s.baseClass = some name ∧ name ≠ "" ∧ base = .named name := by
  unfold superClass
  cases s.baseClass with
  | none => simp
  | some name =>
    by_cases hname : name = ""
    · simp [hname]
    · simp [hname, eq_comm]

theorem extendsOther_buildClass_iff (hname : className ≠ "") :
    (buildClass s component className).ExtendsOther ↔ s.baseClass ≠ some className := by
  constructor
  · intro h hbase
    refine h (.named className) (superClass_eq_some_iff.mpr ⟨className, hbase, hname, rfl⟩) ?_
    rw [references_named]
    exact List.mem_singleton.mpr rfl
  · intro h base hbase hmem
    obtain ⟨name, hsome, _, rfl⟩ := superClass_eq_some_iff.mp hbase
    rw [references_named, List.mem_singleton] at hmem
    exact h (by rw [hsome, ← hmem]; rfl)

theorem registeredElsewhere_buildClass_iff :
    (buildClass s component className).RegisteredElsewhere
        (buildRegistration s tag className) ↔ s.registry ≠ className := by
  have hreceiver : (buildRegistration s tag className).receiver? = some (.named s.registry) := rfl
  simp only [ClassDeclaration.RegisteredElsewhere, hreceiver, Option.some.injEq, forall_eq',
    references_named, List.mem_singleton, buildClass, ClassDeclaration.name,
    ne_comm (a := className)]

/-! ## Elements -/

variable {m : Module} {p : Plan}

/-- The class of a plan is named after the component, with the suffix. -/
theorem className_of_plan (h : plan s m = some p) :
    p.className = p.component.name ++ s.classSuffix := by
  obtain ⟨before, i, after, component, _, rfl⟩ := exists_decides h
  rfl

/-- Exactly four names, two of them fixed and two that the settings choose, do not reach what they
are there for in the items of an element. Where none of them comes up, what is called for the
element is outside the constructor, constants are used behind their declarations, and neither the
base nor the registry is the class. -/
theorem elementItems_names_iff (h : plan s m = some p) :
    ∃ c registration,
      elementItems s p = [.statement (.classDeclaration c), .statement registration,
        .exportExpression {} (.named c.name)] ∧
      (c.CallsOutside ↔ p.component.name ≠ propsBinding ∧ p.component.name ≠ nodeBinding) ∧
      (c.UsesDeclared propsBinding ∧ c.UsesDeclared nodeBinding ↔
        p.component.name ≠ nodeBinding) ∧
      (c.ExtendsOther ↔ s.baseClass ≠ some (p.component.name ++ s.classSuffix)) ∧
      (c.RegisteredElsewhere registration ↔ s.registry ≠ p.component.name ++ s.classSuffix) := by
  have hclass := className_of_plan h
  have hne : p.className ≠ "" := by
    rw [hclass]
    intro hempty
    exact s.classSuffix_ok (String.append_eq_empty_iff.mp hempty).2
  refine ⟨buildClass s p.component.name p.className, buildRegistration s p.tagName p.className,
    rfl, callsOutside_buildClass_iff, ?_, ?_, ?_⟩
  · rw [usesDeclared_buildClass_iff (by decide), usesDeclared_buildClass_iff (by decide)]
    have hnames : nodeBinding ≠ propsBinding := by decide
    simp [hnames, ne_comm]
  · rw [← hclass]
    exact extendsOther_buildClass_iff hne
  · rw [← hclass]
    exact registeredElsewhere_buildClass_iff

/-! ### Names that are caught -/

/-- A module that exports a function of a name. -/
def exporting (name : String) : Module where
  body := [.exportDeclaration {} (.function { name := some { name } })]

theorem plan_exporting (s : Settings) (name : String) :
    plan s (exporting name) = some (Plan.of s 0 { name }) := rfl

theorem elementItems_names_iff_counter :
    plan {} (exporting "Counter") = some (Plan.of {} 0 { name := "Counter" }) ∧
      ∃ c registration,
        elementItems {} (Plan.of {} 0 { name := "Counter" }) =
          [.statement (.classDeclaration c), .statement registration,
            .exportExpression {} (.named c.name)] ∧
        c.CallsOutside ∧ (c.UsesDeclared propsBinding ∧ c.UsesDeclared nodeBinding) ∧
        c.ExtendsOther ∧ c.RegisteredElsewhere registration := by
  obtain ⟨c, registration, hitems, hcalls, huses, hextends, hregistered⟩ :=
    elementItems_names_iff (plan_exporting {} "Counter")
  exact ⟨plan_exporting {} "Counter", c, registration, hitems, hcalls.mpr (by decide),
    huses.mpr (by decide), hextends.mpr (by decide), hregistered.mpr (by decide)⟩

/-- Settings with a suffix that is the end of the registry's name. -/
def plural : Settings := { classSuffix := "s" }

/-- A component that has the name of a constant, one whose class has the name of the base, and one
whose class has the name of the registry. -/
theorem exporting_names_caught :
    (plan {} (exporting "_n") = some (Plan.of {} 0 { name := "_n" }) ∧
      ∃ c rest, elementItems {} (Plan.of {} 0 { name := "_n" }) =
          .statement (.classDeclaration c) :: rest ∧
        ¬ c.CallsOutside ∧ ¬ c.UsesDeclared nodeBinding) ∧
    (plan {} (exporting "HTML") = some (Plan.of {} 0 { name := "HTML" }) ∧
      ∃ c rest, elementItems {} (Plan.of {} 0 { name := "HTML" }) =
          .statement (.classDeclaration c) :: rest ∧ ¬ c.ExtendsOther) ∧
    plan plural (exporting "customElement") = some (Plan.of plural 0 { name := "customElement" }) ∧
      ∃ c registration rest, elementItems plural (Plan.of plural 0 { name := "customElement" }) =
          .statement (.classDeclaration c) :: .statement registration :: rest ∧
        ¬ c.RegisteredElsewhere registration := by
  refine ⟨⟨rfl, _, _, rfl, ?_, ?_⟩, ⟨rfl, _, _, rfl, ?_⟩, rfl, _, _, _, rfl, ?_⟩
  · rw [callsOutside_buildClass_iff]
    decide
  · rw [usesDeclared_buildClass_iff (by decide)]
    decide
  · rw [extendsOther_buildClass_iff (by decide)]
    decide
  · rw [registeredElsewhere_buildClass_iff]
    decide

end CustomElement.Element
