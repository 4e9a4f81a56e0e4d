-- SUMMARY: Analysing a source, compiling it and serving its module to a host agree.
import Mathlib.Data.List.Basic
import CustomElement.Element.Program
import CustomElement.Proofs.Config.Document
import CustomElement.Proofs.Element.Edit
import CustomElement.Proofs.Syntax.Spelling

/-! ## Three ways to an element

A source can be analysed for its plan, compiled to code, or read and handed to a host whose answer is
printed. All three read the source in the same way and plan for the same export. That a plan always
shows in the code rests on how texts begin: an export begins with its keyword or a decorator, what
takes its place begins with a class or with a function that is kept. -/

namespace CustomElement.Element

open Parsing Syntax Config Text Report

variable {trees : TreeReader} {s : Settings} {p : Plan} {source filename code : String} {m : Module}
  {d : Diagnostic} {i : ModuleItem} {component : Identifier}

/-! ## Reading and planning -/

/-- Compiling prints what transforming gives. -/
theorem compileModule_eq (s : Settings) (source : String) (m : Module) :
    compileModule s source m = (transform s m).print source := by
  unfold compileModule transform
  cases plan s m <;> rfl

/-- What is reported does not depend on what would be done with the module. -/
theorem analyzeBy_eq_error_iff :
    analyzeBy trees s source filename = .error d ↔
      compileBy trees s source filename = .error d := by
  unfold analyzeBy compileBy
  cases readSourceBy trees source filename with
  | error e => simp only [Except.map, Except.error.injEq]
  | ok m => simp only [Except.map, reduceCtorEq]

theorem exists_of_analyzeBy_eq_ok {found : Option Plan}
    (h : analyzeBy trees s source filename = .ok found) :
    ∃ m, readModuleBy trees source = .ok m ∧ plan s m = found := by
  unfold analyzeBy readSourceBy at h
  cases hread : readModuleBy trees source with
  | error e =>
    rw [hread] at h
    cases h
  | ok m =>
    rw [hread] at h
    exact ⟨m, rfl, Except.ok.inj h⟩

/-! ## How new text begins -/

theorem beginsWith_block {words parts : List String} {head : String} (h : BeginsWith words head) :
    BeginsWith words (block head parts) := by
  unfold block
  split
  · exact h.append _
  · exact (h.append _).append _ |>.append _

/-- The code of an element begins with its class. -/
theorem beginsWith_elementText (s : Settings) (p : Plan) :
    BeginsWith ["class"] (elementText s p) := by
  have hword : BeginsWith ["class"] "class " := ⟨"class", List.mem_singleton_self _, " ", rfl⟩
  have hclass : BeginsWith ["class"] (buildClass s p.component.name p.className).print :=
    beginsWith_block ((hword.append p.className).append _)
  exact ((((hclass.append _).append _).append _).append _).append _ |>.append _

/-- What may stand in the place of an export. -/
def newWords : List String := "class" :: functionWords

/-- What takes the place of an export begins with a class or with a function that is kept. -/
theorem beginsWith_new {kept : String} (hspelled : SpelledIn source i)
    (hnames : component? i = some component) (hkept : KeptText s source i kept) (p : Plan) :
    BeginsWith newWords (kept ++ elementText s p) := by
  have hclass : BeginsWith newWords ("" ++ elementText s p) := by
    rw [String.empty_append]
    exact (beginsWith_elementText s p).mono (by simp [newWords])
  cases hkept with
  | unwanted _ => exact hclass
  | expression => exact hclass
  | @declaration place d span _ hspan =>
    cases d with
    | function f =>
      have hfunction := hspelled.function place f span rfl hspan
      exact ((hfunction.mono (List.subset_cons_self _ _)).append _).append _
    | classDeclaration _ => cases hnames
    | text _ => cases hnames

/-- No text begins both like an export and like what takes its place. -/
theorem exportWords_apart {text : String} (hold : BeginsWith exportWords text) :
    ¬ BeginsWith newWords text := by
  intro hnew
  have hold := hold.head?_mem (by decide)
  have hnew := hnew.head?_mem (by decide)
  revert hold hnew
  generalize text.toList.head? = first
  simp only [exportWords, newWords, functionWords, List.map_cons, List.map_nil, List.mem_cons,
    List.not_mem_nil, or_false]
  rintro (rfl | rfl) <;> decide

/-- A source that is edited at a planned export is not the same any more. -/
theorem EditedAt.ne_source (hedited : EditedAt s source m p code) (hplan : plan s m = some p)
    (hspelled : ∀ i ∈ m.body, SpelledIn source i) : code ≠ source := by
  intro hsame
  obtain ⟨before, i, after, component, hdecides, rfl⟩ := exists_decides hplan
  obtain ⟨k, item, span, kept, hk, hitem, hspan, hstart, hforward, hstop, hkept, hcode⟩ := hedited
  obtain rfl : before.length = k := Int.ofNat_inj.mp hk
  obtain rfl : i = item := by simpa [hdecides.body_eq] using hitem
  have hi : SpelledIn source i := hspelled i (List.mem_of_getElem? hitem)
  have hwhole : slice source 0 span.start ++ slice source span.start span.stop ++
      slice source span.stop source.length = source := by
    obtain ⟨a, ha⟩ := Int.eq_ofNat_of_zero_le hstart
    obtain ⟨b, hb⟩ := Int.eq_ofNat_of_zero_le (Int.le_trans hstart hforward)
    rw [ha, hb] at hforward ⊢
    rw [hb] at hstop
    have hleft : slice source 0 a ++ slice source a b = slice source 0 b := by
      exact_mod_cast slice_append (Nat.zero_le a) (by omega) (by omega)
    have hright : slice source 0 b ++ slice source b source.length = slice source 0 source.length := by
      exact_mod_cast slice_append (Nat.zero_le b) (by omega) (Nat.le_refl _)
    rw [hleft, hright, slice_length]
  rw [hsame] at hcode
  nth_rewrite 1 [← hwhole] at hcode
  have htext : slice source span.start span.stop = kept ++ elementText s _ :=
    (String.append_right_inj _).mp ((String.append_left_inj _).mp hcode)
  have hold := hi.export_ (isDefaultExport_of_component? hdecides.names) span hspan
  refine exportWords_apart hold ?_
  rw [htext]
  exact beginsWith_new hi hdecides.names hkept _

/-! ## Agreement -/

/-- What is made of an accepted source, in three ways: a plan or none, the module that was read, and
the code. -/
structure Agree (trees : TreeReader) (s : Settings) (source filename : String) (found : Option Plan)
    (m : Module) (code : String) : Prop where
  read : readModuleBy trees source = .ok m
  planned : plan s m = found
  compiled : compileBy trees s source filename = .ok code
  /-- Without a plan the source comes back, and only then. -/
  unchanged : found = none ↔ code = source
  /-- A plan says where the code differs from the source, and in what. -/
  edited : ∀ p, found = some p → EditedAt s source m p code
  /-- A host that hands over the module with the settings gets a program that prints as the code. -/
  served : ∀ text, hostSettings text = .ok s →
    ∃ program same, serve text (.module m) = .ok (program, same) ∧ program.print source = .ok code

/-- Serving a module to a host gives what transforming gives. -/
theorem serve_module {text : Option String} (h : hostSettings text = .ok s) (m : Module) :
    serve text (.module m) = .ok (.module (transform s m), (plan s m).isNone) := by
  rw [serve, h]
  rfl

/-- A source that cannot be read is reported alike by analysing and by compiling it. Of a source that
can be read, the analysis tells the plan by which the code differs from it, if there is one, and the
code is what a host prints of the module, for every document of the settings; there is such a
document. Exports and functions must begin with their words. -/
theorem analyzeBy_agrees (htrees : trees.InOrder) (hspelled : trees.Spelled) (s : Settings)
    (source filename : String) :
    (∀ d, analyzeBy trees s source filename = .error d ↔
      compileBy trees s source filename = .error d) ∧
    (∃ document, hostSettings (some document) = .ok s) ∧
    ∀ found, analyzeBy trees s source filename = .ok found →
      ∃ m code, Agree trees s source filename found m code := by
  refine ⟨fun d => analyzeBy_eq_error_iff, ⟨s.document, hostSettings_document s⟩, ?_⟩
  intro found hfound
  obtain ⟨m, hread, hplan⟩ := exists_of_analyzeBy_eq_ok hfound
  have hcovers := covers_of_readModuleBy htrees hread
  have hwords := spelledIn_of_readModuleBy hspelled hread
  refine ⟨m, compileModule s source m, hread, hplan, compileBy_of_readModuleBy hread s filename,
    ?_, ?_, ?_⟩
  · constructor
    · rintro rfl
      rw [compileModule_eq, transform_eq_self hplan, hcovers.print_source]
    · intro hsame
      cases found with
      | none => rfl
      | some p => exact absurd hsame ((exists_editedAt hcovers hplan).ne_source hplan hwords)
  · rintro p rfl
    exact exists_editedAt hcovers hplan
  · intro text htext
    refine ⟨_, _, serve_module htext m, ?_⟩
    rw [compileModule_eq]
    rfl

/-! ### A component that stays a function -/

theorem counterReader_spelled : counterReader.Spelled := by
  intro text root h _
  unfold counterReader at h
  split at h
  · next heq =>
    subst heq
    obtain rfl := Option.some.inj h
    constructor
    · intro n hn hkind
      rcases hn with _ | ⟨_, _ | ⟨_, ⟨⟩⟩⟩
      · cases hkind
      · exact ⟨"export", by decide, " default function Counter() \x7b\x7d", by decide +kernel⟩
    · intro n hn hkind f hf hfunction
      rcases hn with _ | ⟨_, _ | ⟨_, ⟨⟩⟩⟩
      · cases hkind
      · rcases hf with _ | ⟨_, _ | ⟨_, _ | ⟨_, ⟨⟩⟩⟩⟩
        · cases hfunction
        · cases hfunction
        · exact ⟨"function", by decide, " Counter() \x7b\x7d", by decide +kernel⟩
  · cases h

theorem analyzeBy_agrees_counter :
    counterReader.InOrder ∧ counterReader.Spelled ∧
      analyzeBy counterReader keeping counterSource "counter.tsx" = .ok (some counterPlan) ∧
      ∃ m code, Agree counterReader keeping counterSource "counter.tsx" (some counterPlan) m code := by
  have hfound : analyzeBy counterReader keeping counterSource "counter.tsx" =
      .ok (some counterPlan) := by
    rw [analyzeBy, readSourceBy, readModuleBy_counterReader]
    exact congrArg Except.ok plan_counterModule
  exact ⟨counterReader_inOrder, counterReader_spelled, hfound,
    (analyzeBy_agrees counterReader_inOrder counterReader_spelled keeping counterSource
      "counter.tsx").2.2 _ hfound⟩

end CustomElement.Element
