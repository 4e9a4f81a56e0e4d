-- SUMMARY: The search for the first error, which leaves out unmarked nodes, finds what a search of all nodes finds.
import Mathlib.Data.List.Basic
import CustomElement.Proofs.Parsing.Placed

/-! ## The first error

A node is marked if there is an error at it or below it, and the search for the first error does not
look below a node without a mark. Where the marks are exact nothing is missed: the search finds the
first error or missing token in the order of the tree. Where nodes are in the order of the text,
none of the others begins before it. -/

namespace CustomElement.Parsing

open Text

namespace Node

/-! ## Induction on trees -/

/-- What holds of a node if it holds of its children holds of every node. -/
@[elab_as_elim]
theorem inductionOn {P : Node → Prop} (n : Node) (step : ∀ n, (∀ c ∈ n.children, P c) → P n) :
    P n :=
  match n with
  | mk _ _ _ _ _ _ cs => step _ fun c (_ : c ∈ cs) => inductionOn c step

/-- A property of a node and of all below it is one of each child and of all below that. -/
theorem forall_below_of_mem_children {P : Node → Prop} {n c : Node}
    (h : ∀ m ∈ n :: n.descendants, P m) (hc : c ∈ n.children) : ∀ m ∈ c :: c.descendants, P m := by
  intro m hm
  refine h m (List.mem_cons_of_mem n (mem_descendants.mpr ⟨c, hc, ?_⟩))
  exact List.mem_cons.mp hm

/-! ## Marks -/

/-- The marks of a tree are exact: a node is marked if there is an error or a missing token at it
or below it, and only then. -/
def MarksErrors (root : Node) : Prop :=
  ∀ n ∈ root :: root.descendants,
    n.hasError = true ↔ ∃ m ∈ n :: n.descendants, m.isTrouble = true

/-- Below a node without a mark there is no error. -/
theorem MarksErrors.find?_eq_none {n : Node} (h : n.MarksErrors) (hmark : n.hasError = false) :
    n.descendants.find? isTrouble = none := by
  refine List.find?_eq_none.mpr fun m hm htrouble => ?_
  have hmarked := (h n List.mem_cons_self).mpr ⟨m, List.mem_cons_of_mem n hm, htrouble⟩
  rw [hmark] at hmarked
  cases hmarked

/-! ## The search -/

/-- Among nodes whose marks are exact nothing is missed, if nothing is missed below each of them. -/
theorem firstErrorAmong?_eq_find? {ns : List Node} (hmarks : ∀ n ∈ ns, n.MarksErrors)
    (hbelow : ∀ n ∈ ns, n.firstError? = n.descendants.find? isTrouble) :
    firstErrorAmong? ns = (withDescendants ns).find? isTrouble := by
  induction ns with
  | nil => rfl
  | cons n ns ih =>
    obtain ⟨hmark, hmarks⟩ := List.forall_mem_cons.mp hmarks
    obtain ⟨hn, hbelow⟩ := List.forall_mem_cons.mp hbelow
    rw [firstErrorAmong?, withDescendants_cons, List.find?_cons, List.find?_append,
      ← ih hmarks hbelow]
    cases htrouble : n.isTrouble with
    | true => rfl
    | false =>
      cases herror : n.hasError with
      | true =>
        rw [hn]
        cases n.descendants.find? isTrouble <;> rfl
      | false =>
        rw [hmark.find?_eq_none herror]
        rfl

/-- The search leaves nothing out that a search of all nodes finds. -/
theorem firstError?_eq_find? {root : Node} (hmarks : root.MarksErrors) :
    root.firstError? = root.descendants.find? isTrouble := by
  induction root using inductionOn with
  | step n ih =>
    have hchildren : ∀ c ∈ n.children, c.MarksErrors := fun c hc =>
      forall_below_of_mem_children hmarks hc
    have hsearch := firstErrorAmong?_eq_find? hchildren fun c hc => ih c hc (hchildren c hc)
    cases n
    exact hsearch

/-! ## The order of the text -/

/-- A node goes forward, and its children follow one another inside it. -/
structure ChildrenInOrder (n : Node) : Prop where
  forward : n.start.byte ≤ n.stop.byte
  inside : ∀ c ∈ n.children, n.start.byte ≤ c.start.byte ∧ c.stop.byte ≤ n.stop.byte
  ordered : n.children.Pairwise fun c d => c.stop.byte ≤ d.start.byte

/-- The nodes of a tree are in the order of the text. -/
def InSourceOrder (root : Node) : Prop := ∀ n ∈ root :: root.descendants, n.ChildrenInOrder

/-- What is below a node lies inside it. -/
theorem InSourceOrder.inside {root m : Node} (horder : root.InSourceOrder)
    (hm : m ∈ root :: root.descendants) :
    root.start.byte ≤ m.start.byte ∧ m.stop.byte ≤ root.stop.byte := by
  induction root using inductionOn with
  | step n ih =>
    have hn := horder n List.mem_cons_self
    rcases List.mem_cons.mp hm with rfl | hm
    · exact ⟨Nat.le_refl _, Nat.le_refl _⟩
    · obtain ⟨c, hc, hmc⟩ := mem_descendants.mp hm
      have := ih c hc (forall_below_of_mem_children horder hc) (List.mem_cons.mpr hmc)
      have := hn.inside c hc
      omega

/-- Nodes that follow one another, each with all below it, begin one after the other. -/
theorem pairwise_withDescendants {ns : List Node} (horder : ∀ n ∈ ns, n.InSourceOrder)
    (hordered : ns.Pairwise fun c d => c.stop.byte ≤ d.start.byte)
    (hbelow : ∀ n ∈ ns, n.descendants.Pairwise fun m k => m.start.byte ≤ k.start.byte) :
    (withDescendants ns).Pairwise fun m k => m.start.byte ≤ k.start.byte := by
  induction ns with
  | nil => exact List.Pairwise.nil
  | cons n ns ih =>
    obtain ⟨hn, horder⟩ := List.forall_mem_cons.mp horder
    obtain ⟨hfirst, hordered⟩ := List.pairwise_cons.mp hordered
    obtain ⟨hdown, hbelow⟩ := List.forall_mem_cons.mp hbelow
    -- what comes with a later node begins behind the end of this one
    have hlater : ∀ k ∈ withDescendants ns, n.stop.byte ≤ k.start.byte := by
      intro k hk
      obtain ⟨d, hd, hkd⟩ := mem_withDescendants.mp hk
      exact Nat.le_trans (hfirst d hd) ((horder d hd).inside (List.mem_cons.mpr hkd)).1
    rw [withDescendants_cons, List.pairwise_cons, List.pairwise_append]
    refine ⟨fun k hk => ?_, hdown, ih horder hordered hbelow, fun m hm k hk => ?_⟩
    · rcases List.mem_append.mp hk with hk | hk
      · exact (hn.inside (List.mem_cons_of_mem n hk)).1
      · exact Nat.le_trans (hn n List.mem_cons_self).forward (hlater k hk)
    · have hm := List.mem_cons_of_mem n hm
      have hforward := (hn m hm).forward
      have hstop := (hn.inside hm).2
      have hstart := hlater k hk
      omega

/-- In the order of the tree nodes begin one after the other. -/
theorem InSourceOrder.pairwise {root : Node} (horder : root.InSourceOrder) :
    root.descendants.Pairwise fun m k => m.start.byte ≤ k.start.byte := by
  induction root using inductionOn with
  | step n ih =>
    have hchildren : ∀ c ∈ n.children, c.InSourceOrder := fun c hc =>
      forall_below_of_mem_children horder hc
    rw [descendants_eq]
    exact pairwise_withDescendants hchildren (horder n List.mem_cons_self).ordered
      fun c hc => ih c hc (hchildren c hc)

/-- The first node of some sort begins before the others of that sort. -/
theorem start_le_of_find?_eq_some {ns : List Node} {p : Node → Bool} {e n : Node}
    (hordered : ns.Pairwise fun m k => m.start.byte ≤ k.start.byte) (he : ns.find? p = some e)
    (hn : n ∈ ns) (hp : p n = true) : e.start.byte ≤ n.start.byte := by
  obtain ⟨_, before, after, rfl, hbefore⟩ := List.find?_eq_some_iff_append.mp he
  rcases List.mem_append.mp hn with hn | hn
  · have := hbefore n hn
    simp [hp] at this
  · rcases List.mem_cons.mp hn with rfl | hn
    · exact Nat.le_refl _
    · exact (List.pairwise_cons.mp (List.pairwise_append.mp hordered).2.1).1 n hn

section LiesOn

variable {lines : Array (Option Nat)}

mutual

/-- A tree that lies on a text has its nodes in the order of the text. -/
theorem inSourceOrder_of_liesOn : ∀ {n : Node}, n.liesOn lines = true → n.InSourceOrder
  | mk _ _ _ _ start stop cs, h => by
    simp only [liesOn, Bool.and_eq_true] at h
    obtain ⟨_, hchildren⟩ := h
    have hfirst := le_start_of_lieWithin hchildren
    obtain ⟨hforward, hlast⟩ := forward_of_lieWithin hchildren
    exact List.forall_mem_cons.mpr
      ⟨⟨hforward, fun c hc => ⟨hfirst c hc, (hlast c hc).2⟩, pairwise_of_lieWithin hchildren⟩,
        childrenInOrder_of_lieWithin hchildren⟩

theorem childrenInOrder_of_lieWithin : ∀ {ns : List Node} {first last : Nat},
    lieWithin lines first last ns = true → ∀ n ∈ withDescendants ns, n.ChildrenInOrder
  | [], _, _, _ => by simp
  | n :: ns, first, last, h => by
    simp only [lieWithin, Bool.and_eq_true] at h
    obtain ⟨⟨_, hn⟩, hns⟩ := h
    intro m hm
    rw [withDescendants_cons, ← List.cons_append] at hm
    rcases List.mem_append.mp hm with hm | hm
    · exact inSourceOrder_of_liesOn hn m hm
    · exact childrenInOrder_of_lieWithin hns m hm

end

end LiesOn

/-! ## Nothing is missed -/

/-- With exact marks the search finds the first error or missing token in the order of the tree, and
none only where there is none. In a tree in the order of the text no other begins before it. -/
theorem firstError?_exhaustive {root : Node} (hmarks : root.MarksErrors) :
    root.firstError? = root.descendants.find? isTrouble ∧
      (root.firstError? = none ↔ ∀ n ∈ root.descendants, n.isTrouble = false) ∧
      (root.InSourceOrder → ∀ e, root.firstError? = some e →
        ∀ n ∈ root.descendants, n.isTrouble = true → e.start.byte ≤ n.start.byte) := by
  have hsearch := firstError?_eq_find? hmarks
  refine ⟨hsearch, ?_, ?_⟩
  · simp [hsearch]
  · intro horder e he n hn htrouble
    rw [hsearch] at he
    exact start_le_of_find?_eq_some horder.pairwise he hn htrouble

/-! ### A stray bracket in a function that is not closed -/

/-- A source with a statement, and a function with a stray bracket and without its last brace. -/
def strayText : List Char := "a;\nfunction f() \x7b )\n".toList

/-- The missing brace. -/
def strayBrace : Node := .mk (.terminal (.text "\x7d")) true true false ⟨19, 1⟩ ⟨19, 1⟩ []

/-- The stray bracket. -/
def strayBracket : Node :=
  .mk .error false true false ⟨18, 1⟩ ⟨19, 1⟩ [
    .mk (.terminal (.text ")")) false false false ⟨18, 1⟩ ⟨19, 1⟩ []]

/-- The tree of the source. The statement has no mark and is not searched. -/
def strayTree : Node :=
  .mk (.phrase .program) false true false ⟨0, 0⟩ ⟨20, 2⟩ [
    .mk (.phrase .expressionStatement) false false false ⟨0, 0⟩ ⟨2, 0⟩ [
      .mk (.terminal (.lexeme .identifier)) false false false ⟨0, 0⟩ ⟨1, 0⟩ [],
      .mk (.terminal (.text ";")) false false false ⟨1, 0⟩ ⟨2, 0⟩ []],
    .mk (.phrase .functionDeclaration) false true true ⟨3, 1⟩ ⟨19, 1⟩ [
      .mk (.terminal (.text "function")) false false false ⟨3, 1⟩ ⟨11, 1⟩ [],
      .mk (.terminal (.lexeme .identifier)) false false false ⟨12, 1⟩ ⟨13, 1⟩ [],
      .mk (.phrase .formalParameters) false false false ⟨13, 1⟩ ⟨15, 1⟩ [
        .mk (.terminal (.text "(")) false false false ⟨13, 1⟩ ⟨14, 1⟩ [],
        .mk (.terminal (.text ")")) false false false ⟨14, 1⟩ ⟨15, 1⟩ []],
      .mk (.phrase .statementBlock) false true false ⟨16, 1⟩ ⟨19, 1⟩ [
        .mk (.terminal (.text "\x7b")) false false false ⟨16, 1⟩ ⟨17, 1⟩ [],
        strayBracket,
        strayBrace]]]

theorem firstError?_exhaustive_stray :
    strayTree.MarksErrors ∧ strayTree.InSourceOrder ∧ strayTree.firstError? = some strayBracket ∧
      strayBrace ∈ strayTree.descendants ∧ strayBracket.start.byte ≤ strayBrace.start.byte := by
  have hmarks : strayTree.MarksErrors := by
    unfold MarksErrors
    decide
  have hlies : strayTree.liesOn (lineTable 0 strayText).toArray = true := by decide
  have horder : strayTree.InSourceOrder := inSourceOrder_of_liesOn hlies
  have hbrace : strayBrace ∈ strayTree.descendants := by simp [strayTree, descendants]
  obtain ⟨hsearch, -, hfirst⟩ := firstError?_exhaustive hmarks
  have hfound : strayTree.firstError? = some strayBracket := hsearch.trans rfl
  exact ⟨hmarks, horder, hfound, hbrace, hfirst horder _ hfound _ hbrace rfl⟩

end Node

/-- Whatever a grammar reads has its nodes in the order of the text. -/
theorem Knowledge.read_inSourceOrder {k : Knowledge} {text : List Char} {root : Node}
    (h : k.read text = some root) : root.InSourceOrder := by
  rw [Knowledge.read, Option.filter_eq_some_iff] at h
  exact Node.inSourceOrder_of_liesOn h.2

end CustomElement.Parsing
