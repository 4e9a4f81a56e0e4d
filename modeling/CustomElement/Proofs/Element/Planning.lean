-- SUMMARY: Which export a plan is for, and the module that applying the plan gives.
import Mathlib.Data.List.Basic
import CustomElement.Proofs.Element.Splicing

/-! ## The export that decides

The last default export of a body decides. Cutting the body there, into what stands before it and
what stands behind it, says all that a plan depends on and all that applying it changes. -/

namespace CustomElement.Element

open Syntax Config

/-! ## The last default export -/

variable {body before after : List ModuleItem} {i : ModuleItem}

/-- Nothing is found exactly where there is no default export. -/
theorem lastExport?_eq_none_iff {first : Nat} :
    lastExport? first body = none ↔ ∀ j ∈ body, j.isDefaultExport = false := by
  induction body generalizing first with
  | nil => simp [lastExport?]
  | cons j rest ih =>
    have hbehind : lastExport? (first + 1) rest = none ↔ _ := ih
    rw [List.forall_mem_cons, ← hbehind]
    cases hrest : lastExport? (first + 1) rest with
    | some found => simp [lastExport?, hrest]
    | none => simp [lastExport?, hrest]

/-- A default export without another behind it is found, at its place. -/
theorem lastExport?_append_cons {first : Nat} (hi : i.isDefaultExport = true)
    (hafter : ∀ j ∈ after, j.isDefaultExport = false) :
    lastExport? first (before ++ i :: after) = some (first + before.length, i) := by
  induction before generalizing first with
  | nil => simp [lastExport?, lastExport?_eq_none_iff.mpr hafter, hi]
  | cons j before ih =>
    have hrest : lastExport? (first + 1) (before ++ i :: after) =
        some (first + 1 + before.length, i) := ih
    simp only [List.cons_append, lastExport?, hrest, List.length_cons, Option.some.injEq,
      Prod.mk.injEq, and_true]
    omega

/-- What is found is a default export without another behind it, at its place. -/
theorem exists_of_lastExport?_eq_some {first k : Nat} (h : lastExport? first body = some (k, i)) :
    ∃ before after, body = before ++ i :: after ∧ k = first + before.length ∧
      i.isDefaultExport = true ∧ ∀ j ∈ after, j.isDefaultExport = false := by
  induction body generalizing first with
  | nil => cases h
  | cons j rest ih =>
    cases hrest : lastExport? (first + 1) rest with
    | some found =>
      simp only [lastExport?, hrest, Option.some.injEq] at h
      subst h
      obtain ⟨before, after, rfl, rfl, hi, hafter⟩ := ih hrest
      refine ⟨j :: before, after, rfl, ?_, hi, hafter⟩
      simp only [List.length_cons]
      omega
    | none =>
      -- nothing behind, so the item itself must be the export
      simp only [lastExport?, hrest] at h
      have hnone := lastExport?_eq_none_iff.mp hrest
      split at h
      · next hj =>
        obtain ⟨rfl, rfl⟩ := by simpa using h
        exact ⟨[], rest, rfl, by simp, hj, hnone⟩
      · cases h

/-! ## Plans -/

/-- An item of a body decides: it names a component, and no default export stands behind it. -/
structure Decides (body before : List ModuleItem) (i : ModuleItem) (after : List ModuleItem)
    (component : Identifier) : Prop where
  body_eq : body = before ++ i :: after
  names : component? i = some component
  last : ∀ j ∈ after, j.isDefaultExport = false

variable {component : Identifier} {s : Settings} {m : Module} {p : Plan}

/-- Only default exports name a component. -/
theorem isDefaultExport_of_component? (h : component? i = some component) :
    i.isDefaultExport = true := by
  cases i with
  | exportDeclaration _ _ => rfl
  | exportExpression _ _ => rfl
  | statement _ => cases h
  | text _ => cases h

/-- The plan for a body that is cut at its last default export, if that names a component. -/
theorem plan_of_cut (hbody : m.body = before ++ i :: after) (hi : i.isDefaultExport = true)
    (hafter : ∀ j ∈ after, j.isDefaultExport = false) :
    plan s m = (component? i).map (Plan.of s before.length) := by
  unfold plan planBody
  rw [hbody, lastExport?_append_cons hi hafter, Nat.zero_add]
  rfl

namespace Decides

/-- The item that decides is planned for. -/
theorem plan_eq (h : Decides m.body before i after component) (s : Settings) :
    plan s m = some (Plan.of s before.length component) := by
  rw [plan_of_cut h.body_eq (isDefaultExport_of_component? h.names) h.last, h.names]
  rfl

end Decides

/-- A plan is made for the item that decides, and is fixed by it and the settings. -/
theorem exists_decides (h : plan s m = some p) :
    ∃ before i after component, Decides m.body before i after component ∧
      p = Plan.of s before.length component := by
  simp only [plan, planBody, Option.bind_eq_some_iff, Option.map_eq_some_iff] at h
  obtain ⟨⟨k, i⟩, hfound, component, hnames, rfl⟩ := h
  obtain ⟨before, after, hbody, hk, _, hlast⟩ := exists_of_lastExport?_eq_some hfound
  refine ⟨before, i, after, component, ⟨hbody, hnames, hlast⟩, ?_⟩
  rw [hk, Nat.zero_add]

/-- Whether there is a plan does not depend on the settings. -/
theorem plan_eq_none_of_plan_eq_none (h : plan s m = none) (s' : Settings) : plan s' m = none := by
  cases hplan : plan s' m with
  | none => rfl
  | some p =>
    obtain ⟨before, i, after, component, hdecides, _⟩ := exists_decides hplan
    rw [hdecides.plan_eq s] at h
    cases h

theorem transform_eq_self (h : plan s m = none) : transform s m = m := by
  simp [transform, h]

/-! ## Applying a plan -/

/-- The place behind a first part. -/
theorem namesPlace_length {α : Type} (xs ys : List α) (x : α) :
    NamesPlace (xs ++ x :: ys).length xs.length xs.length := by
  refine ⟨by simp, ?_⟩
  rw [if_pos (Int.natCast_nonneg _)]

theorem itemAt?_length {α : Type} (xs ys : List α) (x : α) :
    itemAt? (xs ++ x :: ys) (xs.length : Int) = some x := by
  simp [itemAt?_of_namesPlace (namesPlace_length xs ys x)]

/-- Splicing at an item replaces that item. -/
theorem spliceAt_length {α : Type} (xs ys new : List α) (x : α) :
    spliceAt (xs ++ x :: ys) (xs.length : Int) new = xs ++ new ++ ys := by
  have hindex : (xs.length : Int) ≠ -1 := by omega
  rw [spliceAt_of_namesPlace (namesPlace_length xs ys x), if_neg hindex]
  simp [List.drop_append]

namespace Decides

/-- Applying a plan for the item that decides puts the element in its place and changes nothing
else. -/
theorem apply_eq (h : Decides m.body before i after component) (hp : p.index = before.length) :
    apply s p m = some { m with body := before ++ replacement s p i ++ after } := by
  simp only [apply, hp, h.body_eq, itemAt?_length, spliceAt_length, Option.map_some]

theorem transform_eq (h : Decides m.body before i after component) (s : Settings) :
    transform s m = { m with
      body := before ++ replacement s (Plan.of s before.length component) i ++ after } := by
  have happly := h.apply_eq (s := s) (p := Plan.of s before.length component) rfl
  simp only [transform, h.plan_eq s, happly, Option.getD_some]

end Decides

end CustomElement.Element
