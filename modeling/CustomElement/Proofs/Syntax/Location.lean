-- SUMMARY: The error at a node and every span of a module count lines and columns from the same text.
import Mathlib.Data.List.Basic
import CustomElement.Proofs.Parsing.Placed
import CustomElement.Proofs.Syntax.Spelling
import CustomElement.Proofs.Text.Position

/-! ## Where errors and spans are

An error counts its column in the bytes before its node, a span in the characters before it. Where
nodes are in place on the text both are the line and column of one offset, that of the node. -/

namespace CustomElement.Syntax

open Parsing Text Grammar

/-! ## All spans -/

mutual

/-- The spans of an expression with those inside it. -/
def Expression.spans : Expression → List Span
  | .identifier id => id.span.toList
  | .stringLiteral s _ | .self s | .raw s _ => s.toList
  | .object s properties => s.toList ++ spansOfProperties properties
  | .member s object property => s.toList ++ object.spans ++ property.span.toList
  | .call s callee arguments => s.toList ++ callee.spans ++ spansOfExpressions arguments

/-- The spans of a property. -/
def Property.spans : Property → List Span
  | .mk s key value => s.toList ++ key.span.toList ++ value.spans

/-- The spans of expressions. -/
def spansOfExpressions : List Expression → List Span
  | [] => []
  | e :: es => e.spans ++ spansOfExpressions es

/-- The spans of properties. -/
def spansOfProperties : List Property → List Span
  | [] => []
  | p :: ps => p.spans ++ spansOfProperties ps

end

/-- The spans of a function. -/
def Function.spans (f : Function) : List Span :=
  f.place.span.toList ++ f.name.toList.flatMap fun id => id.span.toList

mutual

/-- The spans of a statement with those inside it. -/
def Statement.spans : Statement → List Span
  | .raw place _ => place.span.toList
  | .binding place _ name none => place.span.toList ++ name.span.toList
  | .binding place _ name (some value) => place.span.toList ++ name.span.toList ++ value.spans
  | .expression place value => place.span.toList ++ value.spans
  | .function f => f.spans
  | .classDeclaration c => c.spans

/-- The spans of a class. -/
def ClassDeclaration.spans : ClassDeclaration → List Span
  | .mk place name none constructors =>
    place.span.toList ++ name.span.toList ++ spansOfConstructors constructors
  | .mk place name (some e) constructors =>
    place.span.toList ++ name.span.toList ++ e.spans ++ spansOfConstructors constructors

/-- The spans of a constructor. -/
def Constructor.spans : Constructor → List Span
  | .mk s parameters body =>
    s.toList ++ (parameters.flatMap fun id => id.span.toList) ++ spansOfStatements body

/-- The spans of constructors. -/
def spansOfConstructors : List Constructor → List Span
  | [] => []
  | c :: cs => c.spans ++ spansOfConstructors cs

/-- The spans of statements. -/
def spansOfStatements : List Statement → List Span
  | [] => []
  | s :: ss => s.spans ++ spansOfStatements ss

end

/-- The spans of a declaration. -/
def DefaultDeclaration.spans : DefaultDeclaration → List Span
  | .function f => f.spans
  | .classDeclaration c => c.spans
  | .text t => t.place.span.toList

/-- The spans of an item. -/
def ModuleItem.spans : ModuleItem → List Span
  | .exportDeclaration place d => place.span.toList ++ d.spans
  | .exportExpression place e => place.span.toList ++ e.spans
  | .statement s => s.spans
  | .text t => t.place.span.toList

/-- The spans of a module, its own and those inside it. -/
def Module.spans (m : Module) : List Span := m.span.toList ++ m.body.flatMap ModuleItem.spans

/-! ## Spans of nodes -/

namespace SourceText

variable {s : SourceText} {p : Span} {n root : Node} {trivia : String}

/-- The spans of a function are those of its node and of a child. -/
theorem exists_node_of_mem_spans_function (h : p ∈ (s.function n).spans) :
    p = s.span n ∨ ∃ c ∈ n.children, p = s.span c := by
  simp only [Function.spans, function, Option.toList_some, List.mem_append, List.mem_singleton,
    List.mem_flatMap, Option.mem_toList, Option.map_eq_some_iff, identifier] at h
  obtain rfl | ⟨_, ⟨c, hc, rfl⟩, hp⟩ := h
  · exact .inl rfl
  · exact .inr ⟨c, List.mem_of_find?_eq_some hc, by simpa [eq_comm] using hp⟩

/-- The spans of an item are those of its node, of what is exported, and of what is below that. -/
theorem exists_node_of_mem_spans_item (h : p ∈ (s.item trivia n).spans) :
    ∃ m, (m = n ∨ m ∈ n.descendants) ∧ p = s.span m := by
  unfold item at h
  cases hexport : defaultExport? n with
  | none =>
    simp only [hexport, ModuleItem.spans, Statement.spans] at h
    exact ⟨n, .inl rfl, by simpa using h⟩
  | some target =>
    have hchild := mem_children_of_defaultExport? hexport
    have htarget : target ∈ n.descendants := Node.mem_descendants_of_mem_children hchild
    simp only [hexport, exportOf] at h
    have hcases : p = s.span n ∨ p = s.span target ∨ ∃ c ∈ target.children, p = s.span c := by
      split_ifs at h
      · rcases List.mem_append.mp h with h | h
        · exact .inl (by simpa using h)
        · exact .inr (exists_node_of_mem_spans_function h)
      all_goals
        -- what is not taken apart has its own span and no other
        have htwo : p = s.span n ∨ p = s.span target := by
          simpa [ModuleItem.spans, DefaultDeclaration.spans, declaration, Expression.spans,
            identifier] using h
        exact htwo.imp_right .inl
    obtain rfl | rfl | ⟨c, hc, rfl⟩ := hcases
    · exact ⟨n, .inl rfl, rfl⟩
    · exact ⟨target, .inr htarget, rfl⟩
    · exact ⟨c, .inr (Node.mem_descendants.mpr
        ⟨target, hchild, .inr (Node.mem_descendants_of_mem_children hc)⟩), rfl⟩

/-- Every span of a module is that of a node below the root. -/
theorem exists_node_of_mem_spans (h : p ∈ (s.module root).spans) :
    ∃ n ∈ root.descendants, p = s.span n := by
  simp only [module_eq, Module.spans, Option.toList_none, List.nil_append, List.mem_flatMap] at h
  obtain ⟨i, hi, hp⟩ := h
  obtain ⟨n, hn, trivia, rfl⟩ := exists_node_of_mem_items hi
  have hchild : n ∈ root.children := (List.mem_filter.mp hn).1
  obtain ⟨m, rfl | hm, rfl⟩ := exists_node_of_mem_spans_item hp
  · exact ⟨m, Node.mem_descendants_of_mem_children hchild, rfl⟩
  · exact ⟨m, Node.mem_descendants.mpr ⟨n, hchild, .inr hm⟩, rfl⟩

end SourceText

/-! ## Line and column -/

/-- A span begins where its line and column say. -/
def Span.BeginsIn (source : List Char) (p : Span) : Prop :=
  ∃ k line column : Nat, p.start = k ∧ p.line = line ∧ p.column = column ∧
    StandsAt source k line column

section

variable {source : List Char} {n : Node} {k : Nat}

theorem SourceText.start_of_marks (h : n.start.Marks source k) :
    (SourceText.ofChars source).start n = k := by
  rw [SourceText.start, h.byte]
  exact Offsets.char_byteLength_take h.inside

/-- The error at a node is at the line and column of the node. -/
theorem SyntaxError.standsAt_ofNode (h : n.start.Marks source k) :
    StandsAt source k (SyntaxError.ofNode source n).line (SyntaxError.ofNode source n).column := by
  have hplace := standsAt_after_take h.inside
  simp only [SyntaxError.ofNode, h.byte, h.line, takeBytes_byteLength_take]
  exact hplace

/-- So is the span of the node. -/
theorem SourceText.beginsIn_span (h : n.InPlace source) :
    ((SourceText.ofChars source).span n).BeginsIn source := by
  obtain ⟨k, hk⟩ := h
  refine ⟨k, _, _, ?_, ?_, ?_, standsAt_after_take hk.inside⟩
  · rw [span, start_of_marks hk]
  · simp only [span, hk.line, lineAfter]
    rfl
  · simp only [span, start_of_marks hk]
    rfl

/-- An error and a span at one node agree. -/
theorem SyntaxError.ofNode_eq_span (h : n.InPlace source) :
    ((SyntaxError.ofNode source n).line : Int) = ((SourceText.ofChars source).span n).line ∧
      ((SyntaxError.ofNode source n).column : Int) =
        ((SourceText.ofChars source).span n).column := by
  obtain ⟨k, hk⟩ := h
  refine ⟨rfl, ?_⟩
  simp only [SyntaxError.ofNode, SourceText.span, SourceText.start_of_marks hk, hk.byte,
    takeBytes_byteLength_take]
  rfl

end

/-- An empty text has no errors. -/
def TreeReader.AcceptsEmpty (trees : TreeReader) : Prop :=
  ∀ root, trees [] = some root → root.hasError = false

/-- Every span of a module begins where its line and column say, if the tree is in place. -/
theorem SourceText.beginsIn_of_mem_spans {source : List Char} {root : Node} {p : Span}
    (hroot : root.PlacedOn source) (h : p ∈ ((SourceText.ofChars source).module root).spans) :
    p.BeginsIn source := by
  obtain ⟨n, hn, rfl⟩ := exists_node_of_mem_spans h
  exact beginsIn_span (hroot n (List.mem_cons_of_mem _ hn))

end CustomElement.Syntax
