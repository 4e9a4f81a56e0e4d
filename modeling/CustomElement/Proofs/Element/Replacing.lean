-- SUMMARY: The text of what takes the place of an export, and of the body around it.
import Mathlib.Data.List.Basic
import CustomElement.Proofs.Element.Planning
import CustomElement.Proofs.Syntax.Printing

/-! ## An element in the place of an export

What is put in the place of an export stands behind the trivia of the export, each item on lines of
its own. What is printed before and behind the place does not change. -/

namespace CustomElement.Element

open Syntax Config

variable {source : Option String} {first : Bool} {s : Settings} {p : Plan} {i : ModuleItem}

/-! ## The new items -/

/-- The first of the new items, and others that bring no trivia. -/
theorem exists_new_eq_cons (s : Settings) (p : Plan) (i : ModuleItem) :
    ∃ j rest, retained s i ++ elementItems s p = j :: rest ∧
      ∀ k ∈ rest, k.place.leadingTrivia = none := by
  have hnone : ∀ k ∈ elementItems s p, k.place.leadingTrivia = none := by
    intro k hk
    simp only [elementItems, List.mem_cons, List.not_mem_nil, or_false] at hk
    rcases hk with rfl | rfl | rfl <;> rfl
  cases hretained : retained s i with
  | nil => exact ⟨_, _, rfl, fun k hk => hnone k (List.mem_cons_of_mem _ hk)⟩
  | cons d ds =>
    have hds : ds = [] := by
      unfold retained at hretained
      split at hretained
      · split at hretained
        · exact (List.cons.inj hretained).2.symm
        · cases hretained
      · cases hretained
    subst hds
    exact ⟨d, elementItems s p, rfl, hnone⟩

/-- The text that takes the place of an export: the new items on lines of their own. -/
def replacementText (source : Option String) (s : Settings) (p : Plan) (i : ModuleItem) : String :=
  "\n".intercalate ((retained s i ++ elementItems s p).map (ModuleItem.printFrom source))

/-- What takes the place of an export stands behind the trivia of the export. -/
theorem printItems_replacement :
    printItems source first (replacement s p i) =
      separator first i.place.leadingTrivia ++ replacementText source s p i := by
  obtain ⟨j, rest, hnew, hrest⟩ := exists_new_eq_cons s p i
  rw [replacement, replacementText, hnew, leadWith, printItems_lines _ hrest]
  simp

/-- The texts of the class, the registration and the new export, printed from their structure. -/
def elementLines (s : Settings) (p : Plan) : List String :=
  [(buildClass s p.component.name p.className).print,
    (buildRegistration s p.tagName p.className).print,
    "export default " ++ p.className ++ ";"]

/-- The items of an element are printed from their structure, whether the source is at hand or
not. -/
theorem map_printFrom_elementItems :
    (elementItems s p).map (ModuleItem.printFrom source) = elementLines s p := by
  cases source <;> rfl

/-! ## The body around the place -/

variable {before after : List ModuleItem} {m : Module}

/-- The text of a module, cut at an item. -/
theorem print_of_body_eq (h : m.body = before ++ i :: after) :
    m.print source = printItems source true before ++
      separator before.isEmpty i.place.leadingTrivia ++ i.printFrom source ++
      (printItems source false after ++ separator false m.trailingTrivia) := by
  have hne : (before ++ i :: after).isEmpty = false := by simp
  rw [Module.print, printBody, h, hne, printItems_append, printItems_cons, Bool.true_and]
  simp only [String.append_assoc]

/-- The text of a module with an element in the place of that item. -/
theorem print_replacement :
    ({ m with body := before ++ replacement s p i ++ after } : Module).print source =
      printItems source true before ++
      separator before.isEmpty i.place.leadingTrivia ++ replacementText source s p i ++
      (printItems source false after ++ separator false m.trailingTrivia) := by
  obtain ⟨j, rest, hnew, _⟩ := exists_new_eq_cons s p i
  have hne : (before ++ replacement s p i).isEmpty = false := by
    simp [replacement, hnew, leadWith]
  have hne' : (before ++ replacement s p i ++ after).isEmpty = false := by
    simp [replacement, hnew, leadWith]
  rw [Module.print, printBody, printItems_append, printItems_append, printItems_replacement,
    Bool.true_and, Bool.true_and, hne, hne']
  simp only [String.append_assoc]

/-! ## What printing shows of a transformation -/

/-- The text of a body up to an item: the items before it, and its own trivia or the line end in its
stead. -/
def textBefore (source : Option String) (m : Module) (k : Nat) (i : ModuleItem) : String :=
  printItems source true (m.body.take k) ++ separator (k == 0) i.place.leadingTrivia

/-- The text of a body behind an item: the items, and the trailing trivia or the line end in its
stead. -/
def textBehind (source : Option String) (m : Module) (k : Nat) : String :=
  printItems source false (m.body.drop (k + 1)) ++ separator false m.trailingTrivia

/-- The text of the declaration that stays of an export, if one does: printed as any other item is,
so that it is copied where it was read. -/
def keptLines (source : Option String) (s : Settings) : ModuleItem → List String
  | .exportDeclaration _ d => if s.retainDeclaration then [d.toItem.printFrom source] else []
  | _ => []

theorem map_printFrom_retained : (retained s i).map (ModuleItem.printFrom source) =
    keptLines source s i := by
  cases i with
  | exportDeclaration place d =>
    rw [retained, keptLines]
    split <;> rfl
  | _ => rfl

/-- Transforming a module changes what is printed of it at one item only. The text before the item
and the text behind it stay, whichever items were read and whether the source is at hand; in between
the text of the item gives way to the declaration that is kept of it and the code of the element, each
on lines of its own. -/
theorem print_transform (source : Option String) (h : plan s m = some p) :
    ∃ (k : Nat) (i : ModuleItem), p.index = k ∧ m.body[k]? = some i ∧
      m.print source = textBefore source m k i ++ i.printFrom source ++ textBehind source m k ∧
      (transform s m).print source = textBefore source m k i ++
        "\n".intercalate (keptLines source s i ++ elementLines s p) ++ textBehind source m k := by
  obtain ⟨before, i, after, component, hdecides, rfl⟩ := exists_decides h
  have hbody := hdecides.body_eq
  have htake : m.body.take before.length = before := by simp [hbody]
  have hdrop : m.body.drop (before.length + 1) = after := by simp [hbody, List.drop_append]
  have hfirst : (before.length == 0) = before.isEmpty := by cases before <;> rfl
  have hlines : replacementText source s (Plan.of s before.length component) i =
      "\n".intercalate (keptLines source s i ++
        elementLines s (Plan.of s before.length component)) := by
    rw [replacementText, List.map_append, map_printFrom_retained, map_printFrom_elementItems]
  refine ⟨before.length, i, rfl, by simp [hbody], ?_, ?_⟩
  · rw [print_of_body_eq hbody, textBefore, textBehind, htake, hdrop, hfirst]
  · rw [hdecides.transform_eq s, print_replacement, hlines, textBefore, textBehind, htake, hdrop,
      hfirst]

/-! ### Items that were read among items that were built -/

/-- A source with a statement and a component. -/
def mixedSource : String := "a;\nexport default function Hello() \x7b\x7d"

/-- Its module with two more statements, one in front of the export and one behind. -/
def mixedModule : Module where
  body := [.statement (.raw ⟨some ⟨0, 2, 1, 1⟩, some ""⟩ "a;"),
    .statement (.raw {} "b;"),
    .exportDeclaration ⟨some ⟨3, 37, 2, 1⟩, none⟩
      (.function { place := ⟨some ⟨18, 37, 2, 16⟩, none⟩, name := some { name := "Hello" } }),
    .statement (.raw {} "c;")]

theorem print_transform_mixed :
    plan { retainDeclaration := true } mixedModule =
        some (Plan.of { retainDeclaration := true } 2 { name := "Hello" }) ∧
      ∃ (k : Nat) (i : ModuleItem), 2 = (k : Int) ∧ mixedModule.body[k]? = some i ∧
        mixedModule.print mixedSource = textBefore mixedSource mixedModule k i ++
          i.printFrom mixedSource ++ textBehind mixedSource mixedModule k ∧
        (transform { retainDeclaration := true } mixedModule).print mixedSource =
          textBefore mixedSource mixedModule k i ++
            "\n".intercalate (keptLines mixedSource { retainDeclaration := true } i ++
              elementLines { retainDeclaration := true }
                (Plan.of { retainDeclaration := true } 2 { name := "Hello" })) ++
            textBehind mixedSource mixedModule k := by
  have hplan : plan { retainDeclaration := true } mixedModule =
      some (Plan.of { retainDeclaration := true } 2 { name := "Hello" }) := by
    decide +kernel
  exact ⟨hplan, print_transform (some mixedSource) hplan⟩

end CustomElement.Element
