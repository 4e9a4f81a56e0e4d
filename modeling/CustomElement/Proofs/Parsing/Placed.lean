-- SUMMARY: The nodes of a tree, and that each begins between characters and on the line it says, for every grammar.
import Mathlib.Data.List.Basic
import CustomElement.Proofs.Parsing.Order

/-! ## Nodes in their places

The nodes of a tree are its root and all nodes below it. A node is in place on a text if it begins
between two characters and its line counts the line feeds before it. Positions in errors and spans
rest on that and on nothing else about trees; whatever a grammar reads has it. -/

namespace CustomElement.Parsing

open Text

/-! ## Points -/

/-- A point stands before a character of a text, or at its end, by bytes and by lines. -/
structure Point.Marks (text : List Char) (k : Nat) (p : Point) : Prop where
  inside : k ≤ text.length
  byte : p.byte = byteLength (text.take k)
  line : p.line = (text.take k).count '\n'

/-- A point that lies on a text stands somewhere in it. -/
theorem Point.marks_of_liesOn {text : List Char} {p : Point}
    (h : p.liesOn (lineTable 0 text).toArray = true) : ∃ k, p.Marks text k := by
  obtain ⟨k, hk, hbyte, hline⟩ :=
    exists_take_of_getD_lineTable (by simpa [Point.liesOn] using h)
  exact ⟨k, hk, hbyte, hline⟩

namespace Node

/-! ## All nodes -/

mutual

/-- The nodes below a node, each before those below it. -/
def descendants : Node → List Node
  | mk _ _ _ _ _ _ cs => withDescendants cs

/-- Nodes, each with those below it. -/
def withDescendants : List Node → List Node
  | [] => []
  | n :: ns => n :: (n.descendants ++ withDescendants ns)

end

@[simp] theorem withDescendants_nil : withDescendants [] = [] := rfl

@[simp] theorem withDescendants_cons (n : Node) (ns : List Node) :
    withDescendants (n :: ns) = n :: (n.descendants ++ withDescendants ns) := rfl

theorem descendants_eq (n : Node) : n.descendants = withDescendants n.children := by
  cases n
  rfl

theorem mem_withDescendants {m : Node} {ns : List Node} :
    m ∈ withDescendants ns ↔ ∃ n ∈ ns, m = n ∨ m ∈ n.descendants := by
  induction ns with
  | nil => simp
  | cons n ns ih => simp [ih, or_assoc]

/-- A child is below its node, and so is what is below the child. -/
theorem mem_descendants {m n : Node} :
    m ∈ n.descendants ↔ ∃ c ∈ n.children, m = c ∨ m ∈ c.descendants := by
  rw [descendants_eq, mem_withDescendants]

theorem mem_descendants_of_mem_children {c n : Node} (h : c ∈ n.children) : c ∈ n.descendants :=
  mem_descendants.mpr ⟨c, h, .inl rfl⟩

mutual

theorem mem_descendants_of_firstError? : ∀ {n e : Node}, n.firstError? = some e → e ∈ n.descendants
  | mk _ _ _ _ _ _ _, _, h => mem_withDescendants_of_firstErrorAmong? h

theorem mem_withDescendants_of_firstErrorAmong? : ∀ {ns : List Node} {e : Node},
    firstErrorAmong? ns = some e → e ∈ withDescendants ns
  | n :: ns, e, h => by
    rw [firstErrorAmong?] at h
    rw [withDescendants_cons]
    split at h
    · cases h
      exact List.mem_cons_self
    · refine List.mem_cons_of_mem n (List.mem_append.mpr ?_)
      split at h
      · split at h
        · next hfound =>
          cases h
          exact .inl (mem_descendants_of_firstError? hfound)
        · exact .inr (mem_withDescendants_of_firstErrorAmong? h)
      · exact .inr (mem_withDescendants_of_firstErrorAmong? h)

end

/-! ## Places -/

/-- A node begins at some place of the text. -/
def InPlace (text : List Char) (n : Node) : Prop := ∃ k, n.start.Marks text k

/-- A tree is in place with all its nodes. -/
def PlacedOn (text : List Char) (root : Node) : Prop :=
  ∀ n ∈ root :: root.descendants, n.InPlace text

/-- The node that an error is reported at is in place. -/
theorem PlacedOn.firstError?_getD {text : List Char} {root : Node} (h : root.PlacedOn text) :
    (root.firstError?.getD root).InPlace text := by
  cases hfirst : root.firstError? with
  | none => exact h root List.mem_cons_self
  | some e => exact h e (List.mem_cons_of_mem _ (mem_descendants_of_firstError? hfirst))

section LiesOn

variable {text : List Char}

mutual

/-- A tree that lies on the text is in place. -/
theorem placedOn_of_liesOn : ∀ {n : Node}, n.liesOn (lineTable 0 text).toArray = true →
    n.PlacedOn text
  | mk _ _ _ _ start _ cs, h => by
    simp only [liesOn, Bool.and_eq_true] at h
    obtain ⟨⟨hstart, _⟩, hchildren⟩ := h
    exact List.forall_mem_cons.mpr
      ⟨Point.marks_of_liesOn hstart, inPlace_of_lieWithin hchildren⟩

theorem inPlace_of_lieWithin : ∀ {ns : List Node} {first last : Nat},
    lieWithin (lineTable 0 text).toArray first last ns = true →
      ∀ n ∈ withDescendants ns, n.InPlace text
  | [], _, _, _ => by simp
  | n :: ns, first, last, h => by
    simp only [lieWithin, Bool.and_eq_true] at h
    obtain ⟨⟨_, hn⟩, hns⟩ := h
    intro m hm
    rw [withDescendants_cons, ← List.cons_append] at hm
    rcases List.mem_append.mp hm with hm | hm
    · exact placedOn_of_liesOn hn m hm
    · exact inPlace_of_lieWithin hns m hm

end

end LiesOn

end Node

/-- Whatever a grammar reads is in place on the text. -/
theorem Knowledge.read_placedOn {k : Knowledge} {text : List Char} {root : Node}
    (h : k.read text = some root) : root.PlacedOn text := by
  rw [Knowledge.read, Option.filter_eq_some_iff] at h
  exact Node.placedOn_of_liesOn h.2

end CustomElement.Parsing

namespace CustomElement.Syntax

open Parsing

/-- The reader's trees are in place on every text. -/
def TreeReader.Placed (trees : TreeReader) : Prop :=
  ∀ text root, trees text = some root → root.PlacedOn text

theorem TreeReader.placed_grammar : TreeReader.Placed grammar.read :=
  fun _ _ h => Knowledge.read_placedOn h

end CustomElement.Syntax
