-- SUMMARY: The text of a body in parts: items before, items behind, and built items on lines of their own.
import Mathlib.Data.List.Basic
import CustomElement.Syntax.Printer

/-! ## Bodies in parts

The text of a body is the text of its parts one after the other. What stands in front of an item is
decided by the item itself, except that the very first one needs no line end. -/

namespace CustomElement.Syntax

variable {source : Option String} {first : Bool}

@[simp] theorem separator_some (t : String) : separator first (some t) = t := rfl

@[simp] theorem separator_false_none : separator false none = "\n" := rfl

@[simp] theorem printItems_nil : printItems source first [] = "" := rfl

@[simp] theorem printItems_cons (i : ModuleItem) (rest : List ModuleItem) :
    printItems source first (i :: rest) =
      separator first i.place.leadingTrivia ++ i.printFrom source ++ printItems source false rest :=
  rfl

theorem printItems_append (xs ys : List ModuleItem) :
    printItems source first (xs ++ ys) =
      printItems source first xs ++ printItems source (first && xs.isEmpty) ys := by
  induction xs generalizing first with
  | nil => simp
  | cons x xs ih =>
    rw [List.cons_append, printItems_cons, printItems_cons, ih]
    simp [String.append_assoc]

/-- Items that bring no trivia stand on lines of their own; only the trivia of the first one
counts. -/
theorem printItems_lines (i : ModuleItem) {rest : List ModuleItem}
    (h : ∀ j ∈ rest, j.place.leadingTrivia = none) :
    printItems source first (i :: rest) = separator first i.place.leadingTrivia ++
      "\n".intercalate ((i :: rest).map (ModuleItem.printFrom source)) := by
  induction rest generalizing i first with
  | nil => simp
  | cons j rest ih =>
    have hj : j.place.leadingTrivia = none := h j List.mem_cons_self
    have hrest : printItems source false (j :: rest) = _ :=
      ih j fun k hk => h k (List.mem_cons_of_mem j hk)
    rw [printItems_cons, hrest, hj]
    simp [String.intercalate_cons_cons, String.append_assoc]

/-! ## Items with a span -/

/-- An item with a span is copied where the source is at hand. -/
theorem printFrom_some {s : String} {i : ModuleItem} {p : Span} (h : i.place.span = some p) :
    i.printFrom (some s) = Text.slice s p.start p.stop := by
  simp [ModuleItem.printFrom, copyOr, h]

/-! ## Items in another place -/

namespace Statement

@[simp] theorem place_moved (p : Placement) (s : Statement) : (s.moved p).place = p := by
  cases s with
  | classDeclaration c => cases c; rfl
  | _ => rfl

@[simp] theorem print_moved (p : Placement) (s : Statement) : (s.moved p).print = s.print := by
  cases s with
  | binding _ _ _ value => cases value <;> rfl
  | classDeclaration c => cases c; rfl
  | _ => rfl

end Statement

namespace ModuleItem

@[simp] theorem place_withTrivia (trivia : Option String) (i : ModuleItem) :
    (i.withTrivia trivia).place = { i.place with leadingTrivia := trivia } := by
  cases i with
  | statement s => exact Statement.place_moved _ s
  | _ => rfl

@[simp] theorem print_withTrivia (trivia : Option String) (i : ModuleItem) :
    (i.withTrivia trivia).print = i.print := by
  cases i with
  | statement s => exact Statement.print_moved _ s
  | _ => rfl

/-- Other trivia do not change the text of an item. -/
@[simp] theorem printFrom_withTrivia (trivia : Option String) (i : ModuleItem) :
    (i.withTrivia trivia).printFrom source = i.printFrom source := by
  simp [printFrom]

end ModuleItem

end CustomElement.Syntax
