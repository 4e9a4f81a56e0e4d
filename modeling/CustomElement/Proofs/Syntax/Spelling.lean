-- SUMMARY: The words that exports and functions begin with, in the tree and in the module that is read.
import Mathlib.Data.List.Basic
import CustomElement.Proofs.Syntax.Lossless

/-! ## Words at the start of exports

An export begins with its keyword or with a decorator, and a function with its keyword or with
`async`. Nothing else is assumed of how the nodes of a tree are spelled. -/

namespace CustomElement.Syntax

open Parsing Text Grammar

/-! ## Words -/

/-- A text begins with one of some words. -/
def BeginsWith (words : List String) (text : String) : Prop :=
  ∃ w ∈ words, ∃ rest, text = w ++ rest

namespace BeginsWith

variable {words : List String} {text : String}

theorem append (h : BeginsWith words text) (more : String) : BeginsWith words (text ++ more) := by
  obtain ⟨w, hw, rest, rfl⟩ := h
  exact ⟨w, hw, rest ++ more, String.append_assoc⟩

theorem mono {others : List String} (h : BeginsWith words text) (hsub : words ⊆ others) :
    BeginsWith others text := by
  obtain ⟨w, hw, htext⟩ := h
  exact ⟨w, hsub hw, htext⟩

/-- The first character of a text is that of one of the words that it may begin with. -/
theorem head?_mem (h : BeginsWith words text) (hwords : ∀ w ∈ words, w ≠ "") :
    text.toList.head? ∈ words.map (·.toList.head?) := by
  obtain ⟨w, hw, rest, rfl⟩ := h
  refine List.mem_map.mpr ⟨w, hw, ?_⟩
  have hne : w.toList ≠ [] := fun hnil => hwords w hw (String.toList_eq_nil_iff.mp hnil)
  rw [String.toList_append, List.head?_append_of_ne_nil _ hne]

end BeginsWith

/-- What an export begins with. -/
def exportWords : List String := ["export", "@"]

/-- What a function begins with. -/
def functionWords : List String := ["function", "async"]

/-! ## Trees -/

/-- The exports at the top of a tree, and the functions in them, are spelled as such. -/
structure SpelledOn (text : List Char) (root : Node) : Prop where
  exports : ∀ n ∈ root.namedChildren, n.kind = .phrase .exportStatement →
    BeginsWith exportWords ((SourceText.ofChars text).text n)
  functions : ∀ n ∈ root.namedChildren, n.kind = .phrase .exportStatement →
    ∀ f ∈ n.children, isFunction f = true →
      BeginsWith functionWords ((SourceText.ofChars text).text f)

/-- Trees without errors are spelled as the grammar says. -/
def TreeReader.Spelled (trees : TreeReader) : Prop :=
  ∀ text root, trees text = some root → root.hasError = false → SpelledOn text root

/-! ## Items -/

/-- An item that is a default export, and the function in it, are spelled as such in the source. -/
structure SpelledIn (source : String) (i : ModuleItem) : Prop where
  export_ : i.isDefaultExport = true → ∀ span, i.place.span = some span →
    BeginsWith exportWords (slice source span.start span.stop)
  function : ∀ place f span, i = .exportDeclaration place (.function f) →
    f.place.span = some span → BeginsWith functionWords (slice source span.start span.stop)

namespace SourceText

variable {source : String} {trivia : String} {n : Node}

/-- The text of a node is the slice over its span. -/
theorem slice_span (source : String) (n : Node) :
    slice source ((ofChars source.toList).span n).start ((ofChars source.toList).span n).stop =
      (ofChars source.toList).text n :=
  slice_offsets source _ _

/-- Only export statements make default exports. -/
theorem kind_of_isDefaultExport {s : SourceText} (h : (s.item trivia n).isDefaultExport = true) :
    n.kind = .phrase .exportStatement := by
  by_contra hkind
  simp [item, defaultExport?, hkind, ModuleItem.isDefaultExport] at h

/-- What is exported stands directly below the node of the export. -/
theorem mem_children_of_defaultExport? {target : Node} (h : defaultExport? n = some target) :
    target ∈ n.children := by
  unfold defaultExport? exported? at h
  split at h
  · split at h
    · cases h
    · next hrest =>
      have htarget := List.mem_of_find?_eq_some h
      have hsub := (List.dropWhile_suffix (l := n.children) fun m => !isText "default" m).subset
      exact hsub (hrest ▸ List.mem_cons_of_mem _ htarget)
  · cases h

/-- A function that is exported stands below the node of the export. -/
theorem exists_function {s : SourceText} {place : Placement} {f : Function}
    (h : s.item trivia n = .exportDeclaration place (.function f)) :
    ∃ target ∈ n.children, isFunction target = true ∧ f.place.span = some (s.span target) := by
  unfold item at h
  cases hexport : defaultExport? n with
  | none => simp [hexport] at h
  | some target =>
    simp only [hexport, exportOf] at h
    refine ⟨target, mem_children_of_defaultExport? hexport, ?_⟩
    split_ifs at h with hfunction
    · cases h
      exact ⟨hfunction, rfl⟩
    all_goals cases h

/-- Every item is that of a node. -/
theorem exists_node_of_mem_items {s : SourceText} {cursor : Nat} {ns : List Node} {i : ModuleItem}
    (h : i ∈ (s.items cursor ns).1) : ∃ n ∈ ns, ∃ trivia, i = s.item trivia n := by
  induction ns generalizing cursor with
  | nil => cases h
  | cons n ns ih =>
    rw [items_cons] at h
    rcases List.mem_cons.mp h with rfl | h
    · exact ⟨n, List.mem_cons_self, _, rfl⟩
    · obtain ⟨m, hm, trivia, rfl⟩ := ih h
      exact ⟨m, List.mem_cons_of_mem n hm, trivia, rfl⟩

/-- The item of a node of a tree that is spelled as the grammar says is spelled so. -/
theorem spelledIn_item {root : Node} (h : SpelledOn source.toList root)
    (hn : n ∈ root.namedChildren) : SpelledIn source ((ofChars source.toList).item trivia n) where
  export_ := by
    intro hexport span hspan
    rw [place_item] at hspan
    cases hspan
    rw [slice_span]
    exact h.exports n hn (kind_of_isDefaultExport hexport)
  function := by
    intro place f span hitem hspan
    have hexport : ((ofChars source.toList).item trivia n).isDefaultExport = true := by rw [hitem]; rfl
    obtain ⟨target, htarget, hfunction, htargetSpan⟩ := exists_function hitem
    rw [htargetSpan] at hspan
    cases hspan
    rw [slice_span]
    exact h.functions n hn (kind_of_isDefaultExport hexport) target htarget hfunction

end SourceText

/-! ## Modules -/

variable {trees : TreeReader} {source : String} {m : Module}

/-- A source that is accepted has a tree without errors. -/
theorem hasError_of_readModuleBy {root : Node} (h : readModuleBy trees source = .ok m)
    (hroot : trees source.toList = some root) : root.hasError = false := by
  simp only [readModuleBy, hroot, moduleOfTree] at h
  split at h
  · cases h
  · next hno => exact Bool.eq_false_iff.mpr hno

/-- The items of a module that was read by such trees are spelled as the grammar says. -/
theorem spelledIn_of_readModuleBy (htrees : trees.Spelled) (h : readModuleBy trees source = .ok m) :
    ∀ i ∈ m.body, SpelledIn source i := by
  obtain ⟨root, hroot, rfl⟩ := tree_of_readModuleBy h
  have hspelled := htrees _ _ hroot (hasError_of_readModuleBy h hroot)
  intro i hi
  rw [SourceText.module_eq] at hi
  obtain ⟨n, hn, trivia, rfl⟩ := SourceText.exists_node_of_mem_items hi
  rw [SourceText.itemNodes_eq] at hn
  exact SourceText.spelledIn_item hspelled (List.mem_filter.mp hn).1

end CustomElement.Syntax
