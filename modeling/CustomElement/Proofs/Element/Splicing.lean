-- SUMMARY: A plan applied at any index: where the element is put, and for which indexes it cannot be.
import Mathlib.Data.List.Basic
import CustomElement.Element.Plan

/-! ## Plans with any index

A plan from outside may hold any index. The item that it is for and the stretch that the element
replaces are found in two ways: the item by counting from either end, the stretch by its two ends,
of which the second may be counted from the other end than the first. That makes a difference for the
last item counted from the end: the stretch behind it begins at the start of the body, so that
nothing is replaced. -/

namespace CustomElement.Element

open Syntax Config

/-! ## Indexes -/

/-- An index names a place of a list of some length: one below zero counts from the end. -/
structure NamesPlace (length : Nat) (index : Int) (k : Nat) : Prop where
  inside : k < length
  counted : (k : Int) = if 0 ≤ index then index else length + index

variable {α : Type} {xs new : List α} {length k : Nat} {index : Int}

/-- The indexes that name a place. -/
theorem exists_namesPlace (hfrom : -(length : Int) ≤ index) (hbelow : index < length) :
    ∃ k, NamesPlace length index k := by
  by_cases hindex : 0 ≤ index
  · refine ⟨index.toNat, by omega, ?_⟩
    rw [if_pos hindex, Int.toNat_of_nonneg hindex]
  · refine ⟨(length + index).toNat, by omega, ?_⟩
    rw [if_neg hindex, Int.toNat_of_nonneg (by omega)]

theorem placeOf_of_namesPlace (h : NamesPlace length index k) : Text.placeOf length index = k := by
  obtain ⟨hinside, hcounted⟩ := h
  unfold Text.placeOf
  split_ifs at hcounted ⊢ <;> omega

/-- The place behind, unless the index is that of the last item counted from the end. -/
theorem placeOf_succ_of_namesPlace (h : NamesPlace length index k) :
    Text.placeOf length (index + 1) = if index = -1 then 0 else k + 1 := by
  obtain ⟨hinside, hcounted⟩ := h
  unfold Text.placeOf
  split_ifs at hcounted ⊢ <;> omega

/-! ## Items and stretches -/

theorem itemAt?_of_namesPlace (h : NamesPlace xs.length index k) : itemAt? xs index = xs[k]? := by
  obtain ⟨hinside, hcounted⟩ := h
  unfold itemAt?
  split_ifs at hcounted ⊢ with hindex hstart
  · rw [← hcounted, Int.toNat_natCast]
  · rw [← hcounted, Int.toNat_natCast]
  · omega

/-- No item is found exactly for the indexes that are out of range at either end. -/
theorem itemAt?_eq_none_iff :
    itemAt? xs index = none ↔ (xs.length : Int) ≤ index ∨ index < -xs.length := by
  unfold itemAt?
  split_ifs with hindex hstart
  · rw [List.getElem?_eq_none_iff]
    omega
  · rw [List.getElem?_eq_none_iff]
    omega
  · exact iff_of_true rfl (.inr (by omega))

/-- Splicing replaces the item that the index names, or puts the new items before it where the index
is that of the last item counted from the end. -/
theorem spliceAt_of_namesPlace (h : NamesPlace xs.length index k) :
    spliceAt xs index new = xs.take k ++ new ++ xs.drop (if index = -1 then k else k + 1) := by
  unfold spliceAt
  rw [placeOf_of_namesPlace h, placeOf_succ_of_namesPlace h]
  by_cases hlast : index = -1
  · simp only [if_pos hlast, Nat.max_eq_left (Nat.zero_le k)]
  · simp only [if_neg hlast, Nat.max_eq_right (Nat.le_succ k)]

/-! ## New items -/

/-- What is put in for an item. The class, its registration and the new export; in front of them the
declaration of an export whose declaration is to stay. The first of them takes over the trivia of
the item. -/
inductive NewItems (s : Settings) (p : Plan) : ModuleItem → List ModuleItem → Prop where
  | retained {place : Placement} {d : DefaultDeclaration} (hretain : s.retainDeclaration = true) :
      NewItems s p (.exportDeclaration place d)
        [d.toItem.withTrivia place.leadingTrivia,
          .statement (.classDeclaration (buildClass s p.component.name p.className)),
          .statement (buildRegistration s p.tagName p.className),
          .exportExpression {} (.named p.className)]
  | replaced {i : ModuleItem}
      (hnothing : s.retainDeclaration = false ∨ ∀ place d, i ≠ .exportDeclaration place d) :
      NewItems s p i
        [(ModuleItem.statement (.classDeclaration
            (buildClass s p.component.name p.className))).withTrivia i.place.leadingTrivia,
          .statement (buildRegistration s p.tagName p.className),
          .exportExpression {} (.named p.className)]

theorem newItems_replacement (s : Settings) (p : Plan) (i : ModuleItem) :
    NewItems s p i (replacement s p i) := by
  cases i with
  | exportDeclaration place d =>
    unfold replacement
    cases hretain : s.retainDeclaration with
    | true =>
      have hkept : retained s (.exportDeclaration place d) = [d.toItem] := if_pos hretain
      rw [hkept]
      exact .retained hretain
    | false =>
      have hkept : retained s (.exportDeclaration place d) = [] := if_neg (by simp [hretain])
      rw [hkept]
      exact .replaced (.inl hretain)
  | exportExpression place e => exact .replaced (.inr (by simp))
  | statement t => exact .replaced (.inr (by simp))
  | text t => exact .replaced (.inr (by simp))

/-! ## Applying -/

/-- A plan cannot be applied exactly if its index is out of range at either end of the body. Else the
new items take the place of the item that the index names, or stand before it if the index is minus
one. Nothing else of the module changes. -/
theorem apply_at_index (s : Settings) (p : Plan) (m : Module) :
    (apply s p m = none ↔ (m.body.length : Int) ≤ p.index ∨ p.index < -m.body.length) ∧
    (-(m.body.length : Int) ≤ p.index → p.index < m.body.length →
      ∃ k i new, NamesPlace m.body.length p.index k ∧ m.body[k]? = some i ∧ NewItems s p i new ∧
        apply s p m = some { m with
          body := m.body.take k ++ new ++ m.body.drop (if p.index = -1 then k else k + 1) }) := by
  refine ⟨?_, ?_⟩
  · unfold apply
    rw [Option.map_eq_none_iff, itemAt?_eq_none_iff]
  · intro hfrom hbelow
    obtain ⟨k, hplace⟩ := exists_namesPlace hfrom hbelow
    obtain ⟨i, hi⟩ : ∃ i, m.body[k]? = some i := ⟨_, List.getElem?_eq_getElem hplace.inside⟩
    refine ⟨k, i, replacement s p i, hplace, hi, newItems_replacement s p i, ?_⟩
    unfold apply
    rw [itemAt?_of_namesPlace hplace, hi, Option.map_some, spliceAt_of_namesPlace hplace]

/-! ### Before the last item -/

/-- Two components. -/
def pairModule : Module where
  body := [.exportDeclaration {} (.function { name := some { name := "First" } }),
    .exportDeclaration { leadingTrivia := some "\n\n" }
      (.function { name := some { name := "Second" } })]

/-- A plan for the last item of a body. -/
def lastPlan : Plan := { Plan.of {} 0 { name := "Second" } with index := -1 }

theorem apply_at_index_last :
    -(pairModule.body.length : Int) ≤ lastPlan.index ∧ lastPlan.index < pairModule.body.length ∧
      ∃ k i new, NamesPlace 2 (-1) k ∧ pairModule.body[k]? = some i ∧
        NewItems { retainDeclaration := true } lastPlan i new ∧
        apply { retainDeclaration := true } lastPlan pairModule =
          some { pairModule with
            body := pairModule.body.take k ++ new ++ pairModule.body.drop k } := by
  have hfrom : -(pairModule.body.length : Int) ≤ lastPlan.index := by decide
  have hbelow : lastPlan.index < pairModule.body.length := by decide
  exact ⟨hfrom, hbelow,
    (apply_at_index { retainDeclaration := true } lastPlan pairModule).2 hfrom hbelow⟩

end CustomElement.Element
