-- SUMMARY: The nodes at the top of a tree follow one another inside the text, for every reader by the grammar.
import Mathlib.Data.List.Basic
import CustomElement.Syntax.Reader
import CustomElement.Proofs.Text.Offsets

/-! ## Trees on a text

Reading modules relies on one property of trees only: the nodes at the top that have a meaning of
their own follow one another inside the text. Which reader the trees come from does not matter. -/

namespace CustomElement.Parsing

open Text

namespace Node

/-- The nodes directly below that have a meaning of their own. -/
def namedChildren (root : Node) : List Node := root.children.filter fun n => n.kind.isNamed

/-- The named nodes at the top follow one another and lie inside the text. -/
structure InOrderOn (text : List Char) (root : Node) : Prop where
  forward : ∀ n ∈ root.namedChildren, n.start.byte ≤ n.stop.byte
  inside : ∀ n ∈ root.namedChildren, n.stop.byte ≤ byteLength text
  ordered : root.namedChildren.Pairwise fun m n => m.stop.byte ≤ n.start.byte

variable {lines : Array (Option Nat)} {first last : Nat} {ns : List Node}

/-- Nodes that lie between two bytes begin behind the first of them. -/
theorem le_start_of_lieWithin (h : lieWithin lines first last ns = true) :
    ∀ n ∈ ns, first ≤ n.start.byte := by
  induction ns generalizing first with
  | nil => simp
  | cons n ns ih =>
    simp only [lieWithin, Bool.and_eq_true, decide_eq_true_eq] at h
    obtain ⟨⟨⟨hfirst, hforward⟩, _⟩, hrest⟩ := h
    intro m hm
    rcases List.mem_cons.mp hm with rfl | hm
    · exact hfirst
    · have := ih hrest m hm
      omega

/-- Nodes that lie between two bytes go forward and end before the second of them. -/
theorem forward_of_lieWithin (h : lieWithin lines first last ns = true) :
    first ≤ last ∧ ∀ n ∈ ns, n.start.byte ≤ n.stop.byte ∧ n.stop.byte ≤ last := by
  induction ns generalizing first with
  | nil => simpa [lieWithin] using h
  | cons n ns ih =>
    simp only [lieWithin, Bool.and_eq_true, decide_eq_true_eq] at h
    obtain ⟨⟨⟨hfirst, hforward⟩, _⟩, hrest⟩ := h
    obtain ⟨hlast, hns⟩ := ih hrest
    refine ⟨by omega, ?_⟩
    intro m hm
    rcases List.mem_cons.mp hm with rfl | hm
    · exact ⟨hforward, hlast⟩
    · exact hns m hm

/-- Nodes that lie between two bytes follow one another. -/
theorem pairwise_of_lieWithin (h : lieWithin lines first last ns = true) :
    ns.Pairwise fun m n => m.stop.byte ≤ n.start.byte := by
  induction ns generalizing first with
  | nil => exact List.Pairwise.nil
  | cons n ns ih =>
    simp only [lieWithin, Bool.and_eq_true] at h
    exact List.Pairwise.cons (le_start_of_lieWithin h.2) (ih h.2)

/-- A tree that lies on a text has its nodes in order on it. -/
theorem inOrderOn_of_liesOn {text : List Char} {root : Node}
    (h : root.liesOn (lineTable 0 text).toArray = true) : root.InOrderOn text := by
  obtain ⟨kind, isMissing, hasError, isDeclaration, start, stop, children⟩ := root
  simp only [liesOn, Bool.and_eq_true] at h
  obtain ⟨⟨_, hstop⟩, hchildren⟩ := h
  have hend : stop.byte ≤ byteLength text :=
    le_byteLength_of_getD_lineTable (by simpa [Point.liesOn] using hstop)
  obtain ⟨_, hforward⟩ := forward_of_lieWithin hchildren
  have hsub : ∀ n ∈ (mk kind isMissing hasError isDeclaration start stop children).namedChildren,
      n ∈ children := fun n hn => (List.mem_filter.mp hn).1
  refine ⟨?_, ?_, ?_⟩
  · intro n hn
    exact (hforward n (hsub n hn)).1
  · intro n hn
    exact Nat.le_trans (hforward n (hsub n hn)).2 hend
  · exact (pairwise_of_lieWithin hchildren).filter _

end Node

/-- Whatever a grammar reads, the nodes are in order on the text. -/
theorem Knowledge.read_inOrderOn {k : Knowledge} {text : List Char} {root : Node}
    (h : k.read text = some root) : root.InOrderOn text := by
  rw [Knowledge.read, Option.filter_eq_some_iff] at h
  exact Node.inOrderOn_of_liesOn h.2

end CustomElement.Parsing

namespace CustomElement.Syntax

open Parsing

/-- The reader's trees have their nodes in order on every text. -/
def TreeReader.InOrder (trees : TreeReader) : Prop :=
  ∀ text root, trees text = some root → root.InOrderOn text

theorem TreeReader.inOrder_grammar : TreeReader.InOrder grammar.read :=
  fun _ _ h => Knowledge.read_inOrderOn h

end CustomElement.Syntax
