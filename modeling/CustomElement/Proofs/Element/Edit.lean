-- SUMMARY: Compiling edits the source at the selected export and nowhere else.
import Mathlib.Data.List.Basic
import CustomElement.Element.Compile
import CustomElement.Proofs.Element.Replacing
import CustomElement.Proofs.Syntax.Lossless

/-! ## The source, edited

Compiling is described without printing the module: the code is the source with the span of one item
replaced. What takes its place is text that depends on the plan, and on the settings whether the
declaration is kept. -/

namespace CustomElement.Element

open Parsing Syntax Config Text

/-! ## What is put in -/

/-- The code of an element. -/
def elementText (s : Settings) (p : Plan) : String :=
  (buildClass s p.component.name p.className).print ++ "\n" ++
    (buildRegistration s p.tagName p.className).print ++ "\n" ++
    "export default " ++ p.className ++ ";"

/-- The text that is kept of an export: its declaration as written and a line end, or nothing. -/
inductive KeptText (s : Settings) (source : String) : ModuleItem → String → Prop
  | declaration {place : Placement} {d : DefaultDeclaration} {span : Span} :
      s.retainDeclaration = true → d.toItem.place.span = some span →
      KeptText s source (.exportDeclaration place d) (slice source span.start span.stop ++ "\n")
  | unwanted {i : ModuleItem} : s.retainDeclaration = false → KeptText s source i ""
  | expression {place : Placement} {e : Expression} :
      KeptText s source (.exportExpression place e) ""

/-- A code is the source with the element of a plan in the place of the item that the plan is
for. -/
def EditedAt (s : Settings) (source : String) (m : Module) (p : Plan) (code : String) : Prop :=
  ∃ (k : Nat) (item : ModuleItem) (span : Span) (kept : String),
    p.index = k ∧ m.body[k]? = some item ∧ item.place.span = some span ∧
    0 ≤ span.start ∧ span.start ≤ span.stop ∧ span.stop ≤ source.length ∧
    KeptText s source item kept ∧
    code = slice source 0 span.start ++ (kept ++ elementText s p) ++
      slice source span.stop source.length

variable {s : Settings} {p : Plan} {source : String} {m : Module}

/-- What takes the place of an item, with the source at hand, is the text that is kept of it and the
code of the element. -/
theorem exists_keptText {component : Identifier} {i : ModuleItem} {a b c : Nat}
    (hstands : StandsIn source a b c i) (hnames : component? i = some component) :
    ∃ kept, KeptText s source i kept ∧
      replacementText (some source) s p i = kept ++ elementText s p := by
  have hlines : "\n".intercalate ((elementItems s p).map (ModuleItem.printFrom (some source))) =
      elementText s p := by
    rw [map_printFrom_elementItems]
    simp only [elementLines, elementText, String.intercalate_cons_cons,
      String.intercalate_singleton, String.append_assoc]
  have hnothing (h : retained s i = []) :
      replacementText (some source) s p i = "" ++ elementText s p := by
    rw [replacementText, h, List.nil_append, hlines, String.empty_append]
  cases i with
  | statement _ => cases hnames
  | text _ => cases hnames
  | exportExpression _ _ => exact ⟨"", .expression, hnothing rfl⟩
  | exportDeclaration place d =>
    cases hretain : s.retainDeclaration with
    | false => exact ⟨"", .unwanted hretain, hnothing (by simp [retained, hretain])⟩
    | true =>
      obtain ⟨span, hspan⟩ := hstands.declared place d rfl
      refine ⟨_, .declaration hretain hspan, ?_⟩
      have hne : (elementItems s p).map (ModuleItem.printFrom (some source)) ≠ [] := by
        simp [elementItems]
      rw [replacementText, retained, if_pos hretain, List.singleton_append, List.map_cons,
        String.intercalate_cons_of_ne_nil hne, hlines, printFrom_some hspan]

/-- The code of a module that covers its source is an edit of the source. -/
theorem exists_editedAt (hcovers : m.Covers source) (hplan : plan s m = some p) :
    EditedAt s source m p (compileModule s source m) := by
  obtain ⟨before, i, after, component, hdecides, rfl⟩ := exists_decides hplan
  obtain ⟨last, hlast, htiles, htrailing⟩ := hcovers
  rw [hdecides.body_eq] at htiles
  obtain ⟨b, c, d, hbefore, hi, hafter⟩ := htiles.split
  obtain ⟨kept, hkept, hreplacement⟩ := exists_keptText (s := s)
    (p := Plan.of s before.length component) hi hdecides.names
  obtain ⟨line, column, hspan⟩ := hi.span_eq
  have hbc := hi.before
  have hcd := hi.forward
  have hd := hafter.le
  refine ⟨before.length, i, _, kept, rfl, ?_, hspan, Int.natCast_nonneg c, ?_, ?_, hkept, ?_⟩
  · simp [hdecides.body_eq]
  · exact Int.ofNat_le.mpr hcd
  · exact Int.ofNat_le.mpr hi.inside
  -- the tiles before, the trivia, the new text, the tiles behind and the trailing trivia
  · have hleft : slice source 0 b ++ slice source b c = slice source 0 c := by
      exact_mod_cast slice_append (Nat.zero_le b) hbc (by omega)
    have hright : slice source d last ++ slice source last source.length =
        slice source d source.length := slice_append hd hlast (Nat.le_refl _)
    rw [compileModule, hplan]
    simp only [hdecides.apply_eq (s := s) (p := Plan.of s before.length component) rfl,
      Option.getD_some]
    rw [print_replacement, hbefore.printItems_source (by omega), hi.trivia_eq, hreplacement,
      hafter.printItems_source hlast, htrailing, separator_some, separator_some, hright]
    rw [← hleft]
    simp [String.append_assoc]

/-! ## Compiling -/

variable {trees : TreeReader}

/-- What is read is compiled. -/
theorem compileBy_of_readModuleBy (h : readModuleBy trees source = .ok m) (s : Settings)
    (filename : String) :
    compileBy trees s source filename = .ok (compileModule s source m) := by
  rw [compileBy, readSourceBy, h]
  rfl

/-- Compiling changes an accepted source at the selected export only: without a plan the code is the
source itself, with one it is the source edited at the planned item. -/
theorem compileBy_edits (htrees : trees.InOrder) (h : readModuleBy trees source = .ok m)
    (s : Settings) (filename : String) :
    (plan s m = none → compileBy trees s source filename = .ok source) ∧
      ∀ p, plan s m = some p →
        ∃ code, compileBy trees s source filename = .ok code ∧ EditedAt s source m p code := by
  have hcovers := covers_of_readModuleBy htrees h
  rw [compileBy_of_readModuleBy h]
  refine ⟨?_, ?_⟩
  · intro hplan
    rw [compileModule, hplan]
    exact congrArg Except.ok hcovers.print_source
  · intro p hplan
    exact ⟨_, rfl, exists_editedAt hcovers hplan⟩

/-! ### A component that stays a function -/

/-- Settings that keep the declaration. -/
def keeping : Settings := { retainDeclaration := true }

/-- The plan for the component. -/
def counterPlan : Plan where
  index := 0
  component := { span := some ⟨29, 36, 2, 25⟩, name := "Counter" }
  tagName := "fluxel-counter"
  className := "CounterElement"

theorem plan_counterModule : plan keeping counterModule = some counterPlan := by
  decide +kernel

theorem compileBy_edits_counter :
    counterReader.InOrder ∧ readModuleBy counterReader counterSource = .ok counterModule ∧
      plan keeping counterModule = some counterPlan ∧
      ∃ code, compileBy counterReader keeping counterSource "counter.tsx" = .ok code ∧
        EditedAt keeping counterSource counterModule counterPlan code :=
  ⟨counterReader_inOrder, readModuleBy_counterReader, plan_counterModule,
    (compileBy_edits counterReader_inOrder readModuleBy_counterReader keeping "counter.tsx").2
      counterPlan plan_counterModule⟩

end CustomElement.Element
