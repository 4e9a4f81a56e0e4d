-- SUMMARY: What checks give and report, part by part; the field of a name, in a list of fields.
import Mathlib.Data.List.Basic
import CustomElement.Json.Validation

/-! ## What checks give

A check of several parts succeeds exactly if all of its parts do. What it gives then has a property
if the parts that go into it have properties that make it so. Otherwise it reports the problems of
all parts, in their order. -/

namespace CustomElement.Json

namespace Checked

variable {α β : Type}

@[simp] theorem map_ok (f : α → β) (a : α) : f <$> ok a = ok (f a) := rfl

@[simp] theorem ok_seq_ok (f : α → β) (a : α) : ok f <*> ok a = ok (f a) := rfl

@[simp] theorem within_ok (step : Step) (a : α) : within step (ok a) = ok a := rfl

theorem map_eq_ok (f : α → β) {x : Checked α} {a : α} (h : x = ok a) : f <$> x = ok (f a) := by
  rw [h, map_ok]

theorem within_eq_ok_iff {step : Step} {x : Checked α} {a : α} :
    within step x = ok a ↔ x = ok a := by
  cases x with
  | ok b => exact Iff.rfl
  | problems ps => simp [within]

/-- Checks that all succeed give the list of what they give. -/
theorem all_map_ok (first : Nat) (as : List α) : all first (as.map ok) = ok as := by
  induction as generalizing first with
  | nil => rfl
  | cons a as ih =>
    rw [List.map_cons, all, ih]
    rfl

/-! ## Properties of what is given -/

/-- Whatever the check gives has the property. -/
def Gives (P : α → Prop) (x : Checked α) : Prop := ∀ a, x = ok a → P a

variable {P : β → Prop} {Q : α → Prop} {f : Checked (α → β)} {x : Checked α}

theorem gives_true (x : Checked α) : x.Gives fun _ => True := fun _ _ => trivial

theorem gives_map {g : α → β} (h : x.Gives fun a => P (g a)) : (g <$> x).Gives P := by
  intro b hb
  cases x with
  | ok a =>
    cases hb
    exact h a rfl
  | problems ps => cases hb

/-- What is put together has a property if putting it together keeps it. -/
theorem gives_seq (hf : f.Gives fun g => ∀ a, Q a → P (g a)) (hx : x.Gives Q) :
    (f <*> x).Gives P := by
  intro b hb
  cases f with
  | ok g =>
    cases x with
    | ok a =>
      cases hb
      exact hf g rfl a (hx a rfl)
    | problems ps => cases hb
  | problems ps => cases x <;> cases hb

/-- What is put together has a property that does not depend on the last part. -/
theorem Gives.seq (hf : f.Gives fun g => ∀ a, P (g a)) (x : Checked α) : (f <*> x).Gives P :=
  gives_seq (fun g hg a _ => hf g hg a) (gives_true x)

theorem gives_within {step : Step} (h : x.Gives Q) : (within step x).Gives Q :=
  fun a ha => h a (within_eq_ok_iff.mp ha)

/-- The items of a list have a property that every one of their checks gives. -/
theorem gives_all {first : Nat} {xs : List (Checked α)} (h : ∀ x ∈ xs, x.Gives Q) :
    (all first xs).Gives fun as => ∀ a ∈ as, Q a := by
  induction xs generalizing first with
  | nil =>
    intro as has
    cases has
    simp
  | cons x xs ih =>
    obtain ⟨hx, hxs⟩ := List.forall_mem_cons.mp h
    refine gives_seq (x := all (first + 1) xs) (gives_map (gives_within ?_)) (ih hxs)
    intro a ha as has
    exact List.forall_mem_cons.mpr ⟨hx a ha, has⟩

/-! ## Problems that are reported -/

/-- The check fails with exactly these problems, or succeeds if there are none. -/
def Reports (ps : List Problem) : Checked α → Prop
  | ok _ => ps = []
  | problems qs => qs = ps ∧ ps ≠ []

variable {ps qs : List Problem}

theorem reports_ok (a : α) : (ok a).Reports [] := rfl

theorem reports_fail (kind : ProblemKind) : (fail kind : Checked α).Reports [⟨[], kind⟩] :=
  ⟨rfl, List.cons_ne_nil _ _⟩

theorem reports_map {g : α → β} (h : x.Reports ps) : (g <$> x).Reports ps := by
  cases x with
  | ok a => exact h
  | problems qs => exact h

/-- Problems of both parts are reported one after the other. -/
theorem reports_seq (hf : f.Reports ps) (hx : x.Reports qs) : (f <*> x).Reports (ps ++ qs) := by
  cases f with
  | ok g =>
    cases hf
    cases x with
    | ok a => exact hx
    | problems qs' => exact hx
  | problems ps' =>
    obtain ⟨rfl, hne⟩ := hf
    cases x with
    | ok a =>
      cases hx
      rw [List.append_nil]
      exact ⟨rfl, hne⟩
    | problems qs' =>
      obtain ⟨rfl, _⟩ := hx
      exact ⟨rfl, List.append_ne_nil_of_left_ne_nil hne _⟩

/-- Problems of a part are problems of the whole, farther down. -/
theorem reports_within {step : Step} (h : x.Reports ps) :
    (within step x).Reports (ps.map fun p => { p with path := step :: p.path }) := by
  cases x with
  | ok a =>
    cases h
    rfl
  | problems qs =>
    obtain ⟨rfl, hne⟩ := h
    exact ⟨rfl, fun hnil => hne (List.map_eq_nil_iff.mp hnil)⟩

theorem Reports.exists_eq_ok (h : x.Reports []) : ∃ a, x = ok a := by
  cases x with
  | ok a => exact ⟨a, rfl⟩
  | problems qs => exact absurd rfl h.2

theorem Reports.eq_problems (h : x.Reports ps) (hne : ps ≠ []) : x = problems ps := by
  cases x with
  | ok a => exact absurd h hne
  | problems qs => rw [h.1]

end Checked

/-! ## Fields -/

variable {α β : Type}

attribute [simp] find?_append

@[simp] theorem find?_nil (name : String) : find? ([] : List (String × α)) name = none := rfl

@[simp] theorem find?_cons (key : String) (a : α) (fields : List (String × α)) (name : String) :
    find? ((key, a) :: fields) name =
      (find? fields name).or (if key = name then some a else none) := by
  have hone : find? [(key, a)] name = if key = name then some a else none := by
    by_cases hkey : key = name <;> simp [find?, hkey]
  rw [← List.singleton_append, find?_append, hone]

/-- Converting what the fields hold does not change which field is found. -/
theorem find?_map (f : α → β) (fields : List (String × α)) (name : String) :
    find? (fields.map fun x => (x.1, f x.2)) name = (find? fields name).map f := by
  induction fields with
  | nil => rfl
  | cons x fields ih =>
    obtain ⟨key, a⟩ := x
    rw [List.map_cons, find?_cons, find?_cons, ih]
    by_cases hkey : key = name <;> cases find? fields name <;> simp [hkey]

end CustomElement.Json
