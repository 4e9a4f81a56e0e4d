-- SUMMARY: A plan is for the last default export, and what stands around that export moves it at most.
import Mathlib.Data.List.Basic
import CustomElement.Proofs.Element.Planning

/-! ## The last default export

Of the default exports of a body the one with the greatest index decides, also when it names no
component: then there is no plan, whatever is exported before it. What stands before the last export
counts only for its index, and what stands behind it does not count at all, as long as there is no
default export. -/

namespace CustomElement.Element

open Syntax Config

/-! ## Exports -/

/-- The default exports that an element can be made for: a function declaration that has a name, and
an expression that is a name. -/
inductive ExportsComponent : ModuleItem → Identifier → Prop where
  | function {place : Placement} {f : Function} {component : Identifier}
      (hname : f.name = some component) :
      ExportsComponent (.exportDeclaration place (.function f)) component
  | identifier {place : Placement} {component : Identifier} :
      ExportsComponent (.exportExpression place (.identifier component)) component

/-- The item at an index of a body is a default export, and no default export has a greater
index. -/
structure IsLastExport (body : List ModuleItem) (k : Nat) (i : ModuleItem) : Prop where
  atIndex : body[k]? = some i
  isExport : i.isDefaultExport = true
  greatest : ∀ l j, body[l]? = some j → j.isDefaultExport = true → l ≤ k

variable {body before after : List ModuleItem} {i : ModuleItem} {component : Identifier}
  {k : Nat} {s : Settings} {m : Module} {p : Plan}

theorem component?_eq_some_iff : component? i = some component ↔ ExportsComponent i component := by
  constructor
  · intro h
    cases i with
    | exportDeclaration place d =>
      cases d with
      | function f => exact .function h
      | classDeclaration c => cases h
      | text t => cases h
    | exportExpression place e =>
      cases e with
      | identifier id =>
        cases h
        exact .identifier
      | _ => cases h
    | statement t => cases h
    | text t => cases h
  · intro h
    cases h with
    | function hname => exact hname
    | identifier => rfl

/-- The last export is where the body can be cut so that no default export is behind. -/
theorem isLastExport_iff : IsLastExport body k i ↔
    ∃ before after, body = before ++ i :: after ∧ k = before.length ∧
      i.isDefaultExport = true ∧ ∀ j ∈ after, j.isDefaultExport = false := by
  constructor
  · intro h
    obtain ⟨hk, hi⟩ := List.getElem?_eq_some_iff.mp h.atIndex
    refine ⟨body.take k, body.drop (k + 1), ?_, ?_, h.isExport, ?_⟩
    · rw [← hi, ← List.drop_eq_getElem_cons hk, List.take_append_drop]
    · rw [List.length_take, Nat.min_eq_left (Nat.le_of_lt hk)]
    · intro j hj
      obtain ⟨l, hl⟩ := List.mem_iff_getElem?.mp hj
      rw [List.getElem?_drop] at hl
      by_contra hexport
      have hle := h.greatest _ j hl (by simpa using hexport)
      omega
  · rintro ⟨before, after, rfl, rfl, hi, hafter⟩
    refine ⟨by simp, hi, ?_⟩
    intro l j hl hj
    by_contra hlt
    -- behind the cut the item is one of those that are no exports
    obtain ⟨n, rfl⟩ : ∃ n, l = before.length + (n + 1) := ⟨l - before.length - 1, by omega⟩
    rw [List.getElem?_append_right (Nat.le_add_right _ _), Nat.add_sub_cancel_left,
      List.getElem?_cons_succ] at hl
    rw [hafter j (List.mem_of_getElem? hl)] at hj
    cases hj

/-! ## Plans -/

/-- A plan is one for the component of the last export. -/
theorem plan_eq_some_iff : plan s m = some p ↔
    ∃ k i component, IsLastExport m.body k i ∧ ExportsComponent i component ∧
      p = Plan.of s k component := by
  constructor
  · intro h
    obtain ⟨before, i, after, component, hdecides, rfl⟩ := exists_decides h
    have hlast : IsLastExport m.body before.length i := isLastExport_iff.mpr
      ⟨before, after, hdecides.body_eq, rfl, isDefaultExport_of_component? hdecides.names,
        hdecides.last⟩
    exact ⟨before.length, i, component, hlast, component?_eq_some_iff.mp hdecides.names, rfl⟩
  · rintro ⟨k, i, component, hlast, hexports, rfl⟩
    obtain ⟨before, after, hbody, rfl, -, hafter⟩ := isLastExport_iff.mp hlast
    have hdecides : Decides m.body before i after component :=
      ⟨hbody, component?_eq_some_iff.mpr hexports, hafter⟩
    exact hdecides.plan_eq s

/-- A module has a plan exactly if it has default exports and the last of them names a component. The
plan is for that index and that component, with names made of the component's. Where other items
stand before the last export, and others behind it that are no default exports, the plan is the same
but for the index. -/
theorem plan_selects_last (s : Settings) (m : Module) :
    (∀ p, plan s m = some p ↔
      ∃ (k : Nat) (i : ModuleItem) (component : Identifier),
        IsLastExport m.body k i ∧ ExportsComponent i component ∧
          p = { index := k
                component
                tagName := tagName s.tagPrefix component.name
                className := className s.classSuffix component.name }) ∧
    ∀ k i, IsLastExport m.body k i →
      ((∀ component, ¬ ExportsComponent i component) → plan s m = none) ∧
      ∀ (m' : Module) (before after : List ModuleItem), m'.body = before ++ i :: after →
        (∀ j ∈ after, j.isDefaultExport = false) →
        plan s m' = (plan s m).map fun p => { p with index := before.length } := by
  refine ⟨fun p => plan_eq_some_iff, ?_⟩
  intro k i hlast
  obtain ⟨before, after, hbody, -, hi, hafter⟩ := isLastExport_iff.mp hlast
  have hplan : plan s m = (component? i).map (Plan.of s before.length) :=
    plan_of_cut hbody hi hafter
  refine ⟨?_, ?_⟩
  · intro hnone
    have hcomponent : component? i = none := Option.eq_none_iff_forall_ne_some.mpr
      fun component h => hnone component (component?_eq_some_iff.mp h)
    rw [hplan, hcomponent]
    rfl
  · intro m' before' after' hbody' hafter'
    rw [hplan, plan_of_cut hbody' hi hafter', Option.map_map]
    rfl

/-! ### A component behind another, and a number behind both -/

/-- The export of a name as it is read. -/
def cardExport : ModuleItem := .exportExpression {} (.identifier { name := "Card" })

/-- The export of a named function. -/
def panelExport : ModuleItem := .exportDeclaration {} (.function { name := some { name := "Panel" } })

/-- The export of a number. -/
def numberExport : ModuleItem := .exportExpression {} (.raw none "42")

/-- A module with two components. -/
def panelModule : Module where
  body := [cardExport, .statement (.raw {} "a;"), panelExport, .statement (.raw {} "b;")]

/-- The second of them by itself. -/
def movedModule : Module where
  body := [panelExport]

/-- A module with both of them and a number behind. -/
def numberModule : Module where
  body := [cardExport, panelExport, numberExport]

theorem plan_selects_last_panel :
    (IsLastExport panelModule.body 2 panelExport ∧
      plan {} movedModule = (plan {} panelModule).map fun p => { p with index := 0 }) ∧
    IsLastExport numberModule.body 2 numberExport ∧
      (∀ component, ¬ ExportsComponent numberExport component) ∧ plan {} numberModule = none := by
  have hpanel : IsLastExport panelModule.body 2 panelExport := isLastExport_iff.mpr
    ⟨[cardExport, .statement (.raw {} "a;")], [.statement (.raw {} "b;")], rfl, rfl, rfl, by
      simp [ModuleItem.isDefaultExport]⟩
  have hnumber : IsLastExport numberModule.body 2 numberExport := isLastExport_iff.mpr
    ⟨[cardExport, panelExport], [], rfl, rfl, rfl, by simp⟩
  have hnone : ∀ component, ¬ ExportsComponent numberExport component := by
    rintro component ⟨⟩
  refine ⟨⟨hpanel, ?_⟩, hnumber, hnone, ?_⟩
  · exact ((plan_selects_last {} panelModule).2 2 panelExport hpanel).2 movedModule [] [] rfl
      (by simp)
  · exact ((plan_selects_last {} numberModule).2 2 numberExport hnumber).1 hnone

end CustomElement.Element
