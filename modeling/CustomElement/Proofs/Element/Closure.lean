-- SUMMARY: A module that can be read can still be read when its element has been put in.
import CustomElement.Proofs.Element.Planning
import CustomElement.Proofs.Interchange.Kinds

/-! ## Modules with their element, read again

What may be exported and what may stand in a module are not the same: a declaration that is kept as
text may only be exported. Retaining the declaration of an export takes it into the body. That goes
well because only functions name a component. -/

namespace CustomElement.Element

open Syntax Config Json Interchange

variable {s : Settings} {p : Plan} {i : ModuleItem} {component : Identifier}

/-- Other trivia do not change whether an item may stand in a module. -/
theorem mayStand_withTrivia {trivia : Option String} :
    MayStand (i.withTrivia trivia) ↔ MayStand i := by
  have hkind : (i.withTrivia trivia).kindName = i.kindName := by
    cases i with
    | statement t => cases t <;> rfl
    | _ => rfl
  rw [MayStand, MayStand, hkind]

theorem mayStand_of_mem_leadWith {trivia : Option String} {items : List ModuleItem}
    (h : ∀ j ∈ items, MayStand j) : ∀ j ∈ leadWith trivia items, MayStand j := by
  cases items with
  | nil => exact h
  | cons i rest =>
    obtain ⟨hi, hrest⟩ := List.forall_mem_cons.mp h
    exact List.forall_mem_cons.mpr ⟨mayStand_withTrivia.mpr hi, hrest⟩

/-- What is retained of an export that names a component is a function. -/
theorem mayStand_of_mem_retained (h : component? i = some component) :
    ∀ j ∈ retained s i, MayStand j := by
  intro j hj
  unfold retained at hj
  split at hj
  · next d =>
    split at hj
    · cases d with
      | function f =>
        rw [List.mem_singleton.mp hj]
        exact mayStand_statement (.function f)
      | classDeclaration _ => cases h
      | text _ => cases h
    · cases hj
  · cases hj

theorem mayStand_of_mem_elementItems : ∀ j ∈ elementItems s p, MayStand j := by
  intro j hj
  simp only [elementItems, List.mem_cons, List.not_mem_nil, or_false] at hj
  rcases hj with rfl | rfl | rfl
  · exact mayStand_statement _
  · exact mayStand_statement _
  · rfl

theorem mayStand_of_mem_replacement (h : component? i = some component) :
    ∀ j ∈ replacement s p i, MayStand j :=
  mayStand_of_mem_leadWith
    (List.forall_mem_append.mpr ⟨mayStand_of_mem_retained h, mayStand_of_mem_elementItems⟩)

/-- Putting in the element keeps a body of items that may stand there. -/
theorem mayStand_of_mem_transform {m : Module} (s : Settings) (h : ∀ i ∈ m.body, MayStand i) :
    ∀ i ∈ (transform s m).body, MayStand i := by
  cases hplan : plan s m with
  | none =>
    rw [transform_eq_self hplan]
    exact h
  | some p =>
    obtain ⟨before, i, after, component, hdecides, rfl⟩ := exists_decides hplan
    rw [hdecides.body_eq] at h
    obtain ⟨hbefore, hbehind⟩ := List.forall_mem_append.mp h
    obtain ⟨_, hafter⟩ := List.forall_mem_cons.mp hbehind
    rw [hdecides.transform_eq s]
    have hnew := mayStand_of_mem_replacement (s := s) (p := Plan.of s before.length component)
      hdecides.names
    exact List.forall_mem_append.mpr ⟨List.forall_mem_append.mpr ⟨hbefore, hnew⟩, hafter⟩

/-- A module that was read from a value gives, with its element, a module that is read again from its
dump and is the same then. No declaration that is kept as text stands in it by itself. -/
theorem loadModule_transform (s : Settings) {v : Value} {m : Module} (h : loadModule v = .ok m) :
    loadModule (dumpModule (transform s m)) = .ok (transform s m) ∧
      ∀ i ∈ (transform s m).body,
        (itemKind i.kindName).isSome ∧ i.kindName ≠ "OpaqueDeclaration" := by
  have hread : ∀ i ∈ m.body, MayStand i := gives_asKind (fun _ => gives_moduleOfFields) m h
  have hnew := mayStand_of_mem_transform s hread
  refine ⟨moduleOf_dump (transform s m) hnew, ?_⟩
  intro i hi
  exact ⟨hnew i hi, mayStand_iff.mp (hnew i hi)⟩

/-- Settings that keep the function of a component. -/
def retaining : Settings := { retainDeclaration := true }

theorem loadModule_transform_laxModule :
    loadModule laxModule = .ok laxModuleRead ∧
      loadModule (dumpModule (transform retaining laxModuleRead)) =
        .ok (transform retaining laxModuleRead) ∧
      ∀ i ∈ (transform retaining laxModuleRead).body,
        (itemKind i.kindName).isSome ∧ i.kindName ≠ "OpaqueDeclaration" := by
  have h : loadModule laxModule = .ok laxModuleRead := rfl
  exact ⟨h, loadModule_transform retaining h⟩

end CustomElement.Element
