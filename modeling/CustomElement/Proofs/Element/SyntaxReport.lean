-- SUMMARY: A refused source is reported at the place of its error, with the line there and a hint.
import Mathlib.Data.List.Basic
import CustomElement.Element.Compile
import CustomElement.Proofs.Syntax.Location

/-! ## Reports of syntax errors

The reader's error says where its node begins. The report keeps that and adds the file, the line of
the source on which the node begins, and a hint that is never empty. -/

namespace CustomElement.Element

open Syntax Parsing Report Text

/-! ## Context and suggestion -/

/-- The context at the line of an offset is the text of that line. -/
theorem lineContext_of_liesOnLine {source : String} {k number : Nat}
    {before line after : List Char} (hsource : source ≠ "")
    (h : LiesOnLine source.toList k before line after)
    (hnumber : number = 1 + (source.toList.take k).count '\n') :
    lineContext source (some (number : Int)) = some (String.ofList (stripBlanks line)) := by
  have hindex : number - 1 = (source.toList.take k).count '\n' := by omega
  have hlow : ¬ (number : Int) < 1 := by omega
  simp [lineContext, hsource, hlow, hindex, h.getElem?_linesOf]

theorem message_ne_empty (h : Hint) : h.message ≠ "" := by
  cases h with
  | openTemplate => decide
  | unmatched bracket opened closed =>
    intro hnil
    have hlast := (String.append_eq_empty_iff.mp hnil).2
    exact absurd hlast (by decide)
  | emptyExport => decide

/-! ## The report -/

/-- A source is reported at a node: the reader's error is where the node begins, and the report adds
the file, the line and a suggestion to it. -/
structure ReportsAt (source filename : String) (n : Node) (e : SyntaxError) (d : Diagnostic) :
    Prop where
  place : ∃ k, n.start.byte = byteLength (source.toList.take k) ∧
    StandsAt source.toList k e.line e.column ∧
    ∀ before line after, LiesOnLine source.toList k before line after →
      d.context = some (String.ofList (stripBlanks line))
  message : d.message = e.fault.message
  line : d.line = some (e.line : Int)
  column : d.column = some (e.column : Int)
  filename : d.filename = some filename
  suggestion : ∃ s, d.suggestion = some s ∧ s ≠ ""

variable {trees : TreeReader} {source filename : String} {root : Node}

theorem reportsAt_syntaxDiagnostic {n : Node} (hsource : source ≠ "")
    (h : n.InPlace source.toList) :
    ReportsAt source filename n (.ofNode source.toList n)
      (syntaxDiagnostic source filename (.ofNode source.toList n)) where
  place := by
    obtain ⟨k, hk⟩ := h
    have hplace := SyntaxError.standsAt_ofNode hk
    exact ⟨k, hk.byte, hplace, fun _ _ _ hline =>
      lineContext_of_liesOnLine hsource hline hplace.line⟩
  message := rfl
  line := rfl
  column := rfl
  filename := rfl
  suggestion := by
    refine ⟨_, rfl, ?_⟩
    cases hint? source with
    | none => decide
    | some h => exact message_ne_empty h

/-- A source with errors is reported at the first of them; of a source without errors every span
begins where its line and column say. Errors and spans count alike, and line and column tell the
offset. -/
theorem readSourceBy_positions (hplaced : trees.Placed) (hempty : trees.AcceptsEmpty)
    (htree : trees source.toList = some root) :
    (root.hasError = true → ∃ e d, readModuleBy trees source = .error e ∧
      readSourceBy trees source filename = .error d ∧
      ReportsAt source filename (root.firstError?.getD root) e d) ∧
    (root.hasError = false → ∃ m, readModuleBy trees source = .ok m ∧
      readSourceBy trees source filename = .ok m ∧ ∀ p ∈ m.spans, p.BeginsIn source.toList) ∧
    (∀ n ∈ root :: root.descendants,
      ((SyntaxError.ofNode source.toList n).line : Int) =
        ((SourceText.ofChars source.toList).span n).line ∧
      ((SyntaxError.ofNode source.toList n).column : Int) =
        ((SourceText.ofChars source.toList).span n).column) ∧
    ∀ j k line column, StandsAt source.toList j line column →
      StandsAt source.toList k line column → j = k := by
  have hroot := hplaced _ _ htree
  refine ⟨?_, ?_, fun n hn => SyntaxError.ofNode_eq_span (hroot n hn),
    fun _ _ _ _ => StandsAt.unique⟩
  · intro herror
    have hsource : source ≠ "" := by
      rintro rfl
      rw [hempty root htree] at herror
      cases herror
    have hread := readModuleBy_of_hasError htree herror
    exact ⟨_, _, hread, by rw [readSourceBy, hread]; rfl,
      reportsAt_syntaxDiagnostic hsource hroot.firstError?_getD⟩
  · intro hclean
    have hread := readModuleBy_of_clean htree hclean
    exact ⟨_, hread, by rw [readSourceBy, hread]; rfl,
      fun p hp => SourceText.beginsIn_of_mem_spans hroot hp⟩

/-! ### A function that is not closed -/

/-- A source whose last function lacks its closing brace, after characters of two and three
bytes. -/
def openSource : String := "// ☕\nconst é = 1\nfunction f() \x7b\n"

/-- The brace that is missing. -/
def missingBrace : Node := .mk (.terminal (.text "\x7d")) true true false ⟨34, 2⟩ ⟨34, 2⟩ []

/-- The tree of the source. -/
def openTree : Node :=
  .mk (.phrase .program) false true false ⟨0, 0⟩ ⟨35, 3⟩ [
    .mk (.terminal (.lexeme .comment)) false false false ⟨0, 0⟩ ⟨6, 0⟩ [],
    .mk (.phrase .lexicalDeclaration) false false true ⟨7, 1⟩ ⟨19, 1⟩ [],
    .mk (.phrase .functionDeclaration) false true true ⟨20, 2⟩ ⟨34, 2⟩ [
      .mk (.terminal (.text "function")) false false false ⟨20, 2⟩ ⟨28, 2⟩ [],
      .mk (.terminal (.lexeme .identifier)) false false false ⟨29, 2⟩ ⟨30, 2⟩ [],
      .mk (.phrase .formalParameters) false false false ⟨30, 2⟩ ⟨32, 2⟩ [],
      .mk (.phrase .statementBlock) false true false ⟨33, 2⟩ ⟨34, 2⟩ [
        .mk (.terminal (.text "\x7b")) false false false ⟨33, 2⟩ ⟨34, 2⟩ [],
        missingBrace]]]

/-- A reader of that source alone. -/
def openReader : TreeReader := fun text => if text = openSource.toList then some openTree else none

theorem openReader_placed : openReader.Placed := by
  intro text root h
  unfold openReader at h
  split at h
  · next heq =>
    subst heq
    obtain rfl := Option.some.inj h
    exact Node.placedOn_of_liesOn (by decide)
  · cases h

theorem openReader_acceptsEmpty : openReader.AcceptsEmpty := by
  intro root h
  have hother : ([] : List Char) ≠ openSource.toList := by decide
  simp [openReader, hother] at h

theorem readSourceBy_positions_open :
    openReader.Placed ∧ openReader.AcceptsEmpty ∧ openReader openSource.toList = some openTree ∧
      openTree.hasError = true ∧
      ∃ e d, readModuleBy openReader openSource = .error e ∧
        readSourceBy openReader openSource "app.tsx" = .error d ∧
        ReportsAt openSource "app.tsx" missingBrace e d ∧
        e.line = 3 ∧ e.column = 15 ∧ d.context = some "function f() \x7b" := by
  have htree : openReader openSource.toList = some openTree := rfl
  refine ⟨openReader_placed, openReader_acceptsEmpty, htree, rfl, ?_⟩
  obtain ⟨e, d, hread, hreport, hplace⟩ :=
    (readSourceBy_positions openReader_placed openReader_acceptsEmpty htree).1 rfl
  refine ⟨e, d, hread, hreport, hplace, ?_⟩
  obtain rfl := Except.error.inj hread
  obtain rfl := Except.error.inj hreport
  decide

end CustomElement.Element
