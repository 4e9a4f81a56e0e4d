-- SUMMARY: Transforming a module again and again: the elements, each around the class of the one before.
import Mathlib.Data.List.Basic
import CustomElement.Proofs.Element.Replacing

/-! ## One transformation after another

A transformed module exports the class of its element by name, so transforming it again makes an
element around that class. The export moves back by two items each time; what is in front of the
first element and behind the export never changes. -/

namespace CustomElement.Element

open Syntax Config

/-! ## What the runs make -/

/-- A module under settings, one after the other. -/
def transformAll (ss : List Settings) (m : Module) : Module :=
  ss.foldl (fun m s => transform s m) m

/-- A name with the suffixes of settings. -/
def suffixed (name : String) (ss : List Settings) : String :=
  name ++ String.join (ss.map (·.classSuffix))

/-- The class of a name around a component, and its registration under the component's tag. -/
def classAndRegistration (s : Settings) (component className : String) : List ModuleItem :=
  [.statement (.classDeclaration (buildClass s component className)),
    .statement (buildRegistration s (tagName s.tagPrefix component) className)]

/-- The class and registration of every run. A run is around the name with the suffixes of the runs
before, and its class has the name with its own suffix too. -/
def wrappers (name : String) (ss : List Settings) : List ModuleItem :=
  ss.zipIdx.flatMap fun (s, j) =>
    classAndRegistration s (suffixed name (ss.take j)) (suffixed name (ss.take (j + 1)))

/-- The export of a name, as it is built. -/
def exportOf (name : String) : ModuleItem := .exportExpression {} (.named name)

/-- The function declaration that is kept of an export. -/
def keptFunction (s : Settings) : ModuleItem → List ModuleItem
  | .exportDeclaration _ (.function f) =>
    if s.retainDeclaration then [.statement (.function f)] else []
  | _ => []

/-! ## Names -/

@[simp] theorem suffixed_nil (name : String) : suffixed name [] = name := by
  simp [suffixed]

theorem suffixed_cons (name : String) (s : Settings) (ss : List Settings) :
    suffixed name (s :: ss) = suffixed (className s.classSuffix name) ss := by
  simp [suffixed, className, String.append_assoc]

/-- Suffixes are not empty, so every run makes the name longer. -/
theorem suffixed_take_ne (name : String) (ss : List Settings) {j k : Nat} (hjk : j < k)
    (hk : k ≤ ss.length) : suffixed name (ss.take j) ≠ suffixed name (ss.take k) := by
  intro heq
  have hlength : (suffixed name (ss.take j)).length < (suffixed name (ss.take k)).length := by
    have hsplit : ss.take k = ss.take j ++ (ss.take k).drop j := by
      have := List.take_append_drop j (ss.take k)
      rwa [List.take_take, Nat.min_eq_left (Nat.le_of_lt hjk), eq_comm] at this
    obtain ⟨s, rest, hrest⟩ : ∃ s rest, (ss.take k).drop j = s :: rest := by
      apply List.exists_cons_of_ne_nil
      intro hnil
      have := congrArg List.length hnil
      simp only [List.length_drop, List.length_take, List.length_nil] at this
      omega
    have hsuffix : 0 < s.classSuffix.length := by
      have := s.classSuffix_ok
      rw [Nat.pos_iff_ne_zero]
      simpa using this
    rw [hsplit, hrest]
    simp only [suffixed, List.map_append, List.map_cons, String.join_append, String.join_cons,
      String.length_append]
    omega
  rw [heq] at hlength
  exact Nat.lt_irrefl _ hlength

/-! ## The elements, run by run -/

@[simp] theorem wrappers_nil (name : String) : wrappers name [] = [] := rfl

/-- The first run, and the others around the class that it makes. -/
theorem wrappers_cons (name : String) (s : Settings) (ss : List Settings) :
    wrappers name (s :: ss) = classAndRegistration s name (className s.classSuffix name) ++
      wrappers (className s.classSuffix name) ss := by
  simp only [wrappers, List.zipIdx_cons, List.flatMap_cons]
  congr 1
  · simp only [List.take_succ_cons, List.take_zero, suffixed_cons, suffixed_nil]
  · rw [List.zipIdx_succ, List.flatMap_map]
    simp only [List.take_succ_cons, suffixed_cons]

theorem length_wrappers (name : String) (ss : List Settings) :
    (wrappers name ss).length = 2 * ss.length := by
  induction ss generalizing name with
  | nil => rfl
  | cons s ss ih =>
    simp only [wrappers_cons, List.length_append, ih, classAndRegistration, List.length_cons,
      List.length_nil]
    omega

theorem leadingTrivia_of_mem_wrappers {name : String} {ss : List Settings} {i : ModuleItem}
    (h : i ∈ wrappers name ss) : i.place.leadingTrivia = none := by
  simp only [wrappers, classAndRegistration, List.mem_flatMap, List.mem_cons,
    List.not_mem_nil, or_false] at h
  obtain ⟨_, _, rfl | rfl⟩ := h <;> rfl

/-! ## Runs on a built export -/

variable {before after : List ModuleItem} {i : ModuleItem} {component : Identifier} {m : Module}

/-- One run on an export that was built: it moves back by the class and its registration, and
exports the new class. -/
theorem transform_exportOf (hafter : ∀ j ∈ after, j.isDefaultExport = false) (s : Settings)
    (before : List ModuleItem) (name : String) :
    transform s { m with body := before ++ exportOf name :: after } =
      { m with body := (before ++ classAndRegistration s name (className s.classSuffix name)) ++
          exportOf (className s.classSuffix name) :: after } := by
  have hdecides : Decides ({ m with body := before ++ exportOf name :: after } : Module).body
      before (exportOf name) after { name := name } := ⟨rfl, rfl, hafter⟩
  have hnew : replacement s (Plan.of s before.length { name := name }) (exportOf name) =
      classAndRegistration s name (className s.classSuffix name) ++
        [exportOf (className s.classSuffix name)] := rfl
  rw [hdecides.transform_eq s, hnew]
  simp only [List.append_assoc, List.singleton_append]

/-- Runs on an export that was built. -/
theorem transformAll_exportOf (hafter : ∀ j ∈ after, j.isDefaultExport = false)
    (ss : List Settings) (before : List ModuleItem) (name : String) :
    transformAll ss { m with body := before ++ exportOf name :: after } =
      { m with body := before ++ wrappers name ss ++ exportOf (suffixed name ss) :: after } := by
  induction ss generalizing before name with
  | nil => simp [transformAll]
  | cons s ss ih =>
    have hstep := transform_exportOf (m := m) hafter s before name
    have hrest := ih (before ++ classAndRegistration s name (className s.classSuffix name))
      (className s.classSuffix name)
    rw [transformAll, List.foldl_cons, hstep, ← transformAll, hrest, wrappers_cons, suffixed_cons]
    simp only [List.append_assoc]

/-! ## The first run -/

theorem leadWith_append {trivia : Option String} {xs ys : List ModuleItem} (h : xs ≠ []) :
    leadWith trivia (xs ++ ys) = leadWith trivia xs ++ ys := by
  cases xs with
  | nil => exact absurd rfl h
  | cons x xs => rfl

theorem length_leadWith (trivia : Option String) (xs : List ModuleItem) :
    (leadWith trivia xs).length = xs.length := by
  cases xs <;> rfl

theorem retained_eq_keptFunction (h : component? i = some component) (s : Settings) :
    retained s i = keptFunction s i := by
  cases i with
  | statement _ => cases h
  | text _ => cases h
  | exportExpression _ _ => rfl
  | exportDeclaration _ d =>
    cases d with
    | function f => rfl
    | classDeclaration _ => cases h
    | text _ => cases h

/-- The items that runs put in the place of an item. -/
def grown (i : ModuleItem) (name : String) (s : Settings) (ss : List Settings) :
    List ModuleItem :=
  leadWith i.place.leadingTrivia
    (keptFunction s i ++ wrappers name (s :: ss) ++ [exportOf (suffixed name (s :: ss))])

/-- The new items of the first run with those of the others behind them. Only the former include an
item that takes over trivia. -/
theorem grown_eq_append (i : ModuleItem) (name : String) (s : Settings) (ss : List Settings) :
    grown i name s ss =
      leadWith i.place.leadingTrivia (keptFunction s i ++
        classAndRegistration s name (className s.classSuffix name)) ++
      (wrappers (className s.classSuffix name) ss ++
        [exportOf (suffixed (className s.classSuffix name) ss)]) := by
  have hne : keptFunction s i ++
      classAndRegistration s name (className s.classSuffix name) ≠ [] := by
    simp [classAndRegistration]
  rw [← leadWith_append hne, grown, wrappers_cons, suffixed_cons]
  simp only [List.append_assoc]

/-- What one run puts in the place of an item. -/
theorem replacement_eq_grown (h : component? i = some component) (s : Settings) (k : Nat) :
    replacement s (Plan.of s k component) i = grown i component.name s [] := by
  rw [replacement, retained_eq_keptFunction h, grown, wrappers_cons, wrappers_nil, suffixed_cons,
    suffixed_nil, List.append_assoc]
  rfl

theorem transformAll_cons_of_decides (h : Decides m.body before i after component) (s : Settings)
    (ss : List Settings) :
    transformAll (s :: ss) m =
      { m with body := before ++ grown i component.name s ss ++ after } := by
  have hfirst : transform s m =
      { m with body := (before ++ leadWith i.place.leadingTrivia (keptFunction s i ++
          classAndRegistration s component.name (className s.classSuffix component.name))) ++
          exportOf (className s.classSuffix component.name) :: after } := by
    rw [h.transform_eq s, replacement_eq_grown h.names, grown_eq_append, wrappers_nil, suffixed_nil]
    simp only [List.append_assoc, List.nil_append, List.singleton_append]
  rw [transformAll, List.foldl_cons, hfirst, ← transformAll, transformAll_exportOf h.last,
    grown_eq_append]
  simp only [List.append_assoc, List.singleton_append]

theorem keptFunction_cases (s : Settings) (i : ModuleItem) :
    keptFunction s i = [] ∨ ∃ f, keptFunction s i = [.statement (.function f)] := by
  unfold keptFunction
  split
  · split
    · exact .inr ⟨_, rfl⟩
    · exact .inl rfl
  · exact .inl rfl

/-- Only the first of the new items has trivia, that of the item in whose place they are. -/
theorem exists_grown_eq_cons (i : ModuleItem) (name : String) (s : Settings)
    (ss : List Settings) :
    ∃ first rest, grown i name s ss = first :: rest ∧
      first.place.leadingTrivia = i.place.leadingTrivia ∧
      ∀ j ∈ rest, j.place.leadingTrivia = none := by
  have hnone : ∀ j ∈ wrappers name (s :: ss) ++ [exportOf (suffixed name (s :: ss))],
      j.place.leadingTrivia = none := by
    intro j hj
    rcases List.mem_append.mp hj with hj | hj
    · exact leadingTrivia_of_mem_wrappers hj
    · rw [List.mem_singleton.mp hj]
      rfl
  rw [grown, List.append_assoc]
  rcases keptFunction_cases s i with hkept | ⟨f, hkept⟩
  · -- the class of the first run comes first
    cases hnew : wrappers name (s :: ss) ++ [exportOf (suffixed name (s :: ss))] with
    | nil => simp at hnew
    | cons j rest =>
      rw [hnew] at hnone
      rw [hkept]
      refine ⟨_, rest, rfl, ?_, fun k hk => hnone k (List.mem_cons_of_mem _ hk)⟩
      rw [ModuleItem.place_withTrivia]
  · rw [hkept]
    refine ⟨_, _, rfl, ?_, hnone⟩
    rw [ModuleItem.place_withTrivia]

theorem length_grown (i : ModuleItem) (name : String) (s : Settings) (ss : List Settings) :
    (grown i name s ss).length = (keptFunction s i).length + 2 * (ss.length + 1) + 1 := by
  rw [grown, length_leadWith]
  simp only [List.length_append, length_wrappers, List.length_cons, List.length_nil]

/-! ## The normal form -/

/-- What a module is after runs, where the item at an index exported a component: the new items are
in the place of that item and nothing else has changed. -/
structure NormalForm (m : Module) (k : Nat) (i : ModuleItem) (name : String) (s : Settings)
    (ss : List Settings) (m' : Module) : Prop where
  eq : m' = { m with body := m.body.take k ++ grown i name s ss ++ m.body.drop (k + 1) }
  trivia : ∃ first rest, grown i name s ss = first :: rest ∧
    first.place.leadingTrivia = i.place.leadingTrivia ∧
    ∀ j ∈ rest, j.place.leadingTrivia = none
  length : m'.body.length = m.body.length + (keptFunction s i).length + 2 * (ss.length + 1)
  names : ∀ a b, a < b → b ≤ (s :: ss).length →
    suffixed name ((s :: ss).take a) ≠ suffixed name ((s :: ss).take b)

theorem Decides.normalForm (h : Decides m.body before i after component) (s : Settings)
    (ss : List Settings) :
    NormalForm m before.length i component.name s ss (transformAll (s :: ss) m) where
  eq := by
    have htake : m.body.take before.length = before := by
      simp [h.body_eq]
    have hdrop : m.body.drop (before.length + 1) = after := by
      simp [h.body_eq, List.drop_append]
    rw [transformAll_cons_of_decides h, htake, hdrop]
  trivia := exists_grown_eq_cons i component.name s ss
  length := by
    rw [transformAll_cons_of_decides h]
    simp only [h.body_eq, List.length_append, List.length_cons, length_grown]
    omega
  names _ _ hab hb := suffixed_take_ne component.name (s :: ss) hab hb

theorem transformAll_eq_self {s : Settings} (h : plan s m = none) (ss : List Settings) :
    transformAll ss m = m := by
  induction ss with
  | nil => rfl
  | cons t ss ih =>
    rw [transformAll, List.foldl_cons, transform_eq_self (plan_eq_none_of_plan_eq_none h t)]
    exact ih

/-- Settings that differ from the defaults in the names that are made. -/
def panels : Settings := { tagPrefix := "ui-", classSuffix := "Panel" }

/-- A module with an import in front of its component. -/
def helloModule : Module where
  body := [.statement (.raw {} "import { h } from 'fluxel';"),
    .exportDeclaration { leadingTrivia := some "\n\n" }
      (.function { name := some { name := "Hello" } })]

end CustomElement.Element
