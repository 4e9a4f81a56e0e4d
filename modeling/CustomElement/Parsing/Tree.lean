-- SUMMARY: Syntax trees with the extent of every part, and the cost of the errors in them.
import CustomElement.Grammar.Item

/-! ## Syntax trees

A tree knows how much of the text it covers: the padding before its first token, and the rest. It
also carries what the choice between readings depends on: what its errors cost, the weight of the
rules used, and how many visible parts it has. -/

namespace CustomElement.Parsing

open Grammar

/-! ## Extents -/

/-- A stretch of text, measured in characters, in bytes and in line feeds. -/
structure Extent where
  chars : Nat
  bytes : Nat
  lines : Nat
  deriving DecidableEq, Repr, Inhabited

namespace Extent

/-- Nothing. -/
def zero : Extent := ⟨0, 0, 0⟩

/-- One stretch after another. -/
protected def add (a b : Extent) : Extent :=
  ⟨a.chars + b.chars, a.bytes + b.bytes, a.lines + b.lines⟩

instance : Add Extent := ⟨Extent.add⟩

/-- The extent of one character. -/
def ofChar (c : Char) : Extent := ⟨1, c.utf8Size, if c == '\n' then 1 else 0⟩

/-- The extent of some characters. -/
def ofChars (cs : List Char) : Extent := cs.foldl (fun e c => e + ofChar c) zero

end Extent

/-! ## Trees -/

/-- What a node of a tree is: a symbol of the grammar, an error, or a part of an error that is
still growing. -/
inductive Label where
  | symbol (s : Symbol)
  | growing
  | error
  deriving DecidableEq, Repr, Inhabited

/-- Labels by number, errors last. -/
def Label.number : Label → Nat
  | .symbol s => s
  | .growing => 100000
  | .error => 100001

/-- What a tree knows about itself. -/
structure Summary where
  label : Label
  padding : Extent
  size : Extent
  isExtra : Bool := false
  isMissing : Bool := false
  isWord : Bool := false
  cost : Nat := 0
  weight : Int := 0
  /-- How many visible nodes there are below. -/
  shown : Nat := 0
  /-- How many visible nodes there are below without a visible node between. -/
  shownChildren : Nat := 0
  /-- The roles of the children that are not extra. -/
  roles : List (Option Role) := []
  deriving Inhabited

/-- A syntax tree. -/
inductive Tree where
  | node (summary : Summary) (children : List Tree)
  deriving Inhabited

namespace Tree

/-- What the tree knows about itself. -/
def summary : Tree → Summary
  | node s _ => s

/-- The trees below. -/
def children : Tree → List Tree
  | node _ cs => cs

/-- The symbol or kind of error. -/
def label (t : Tree) : Label := t.summary.label

/-- Is the tree outside the grammar's structure, like a comment? -/
def isExtra (t : Tree) : Bool := t.summary.isExtra

/-- All the text that the tree covers. -/
def total (t : Tree) : Extent := t.summary.padding + t.summary.size

/-- Mark the tree as extra or not. -/
def withExtra (b : Bool) : Tree → Tree
  | node s cs => node { s with isExtra := b } cs

/-- Add to the weight. -/
def addWeight (w : Int) : Tree → Tree
  | node s cs => node { s with weight := s.weight + w } cs

/-- Is the tree an error? -/
def isError (t : Tree) : Bool := t.label == .error

end Tree

/-! ## Costs -/

namespace Cost

/-- Entering recovery. -/
def recovery : Nat := 500

/-- Supplying a missing token. -/
def missing : Nat := 110

/-- Skipping a visible tree. -/
def skippedTree : Nat := 100

/-- Skipping a line. -/
def skippedLine : Nat := 30

/-- Skipping a byte. -/
def skippedByte : Nat := 1

/-- The difference beyond which the worse of two readings is given up. -/
def tolerance : Nat := 18 * skippedTree

end Cost

namespace Tree

/-- What the errors in the tree cost. -/
def cost (t : Tree) : Nat :=
  if t.summary.isMissing then Cost.missing + Cost.recovery else t.summary.cost

/-- Can the node be seen? -/
def isVisible (T : Tables) (t : Tree) : Bool :=
  match t.label with
  | .symbol s => T.visible.getD s false
  | .growing => false
  | .error => true

/-- How many visible nodes the tree adds to a stack. Growing errors count, so that skipping a token
is progress. -/
def shownCount (T : Tables) (t : Tree) : Nat :=
  t.summary.shown + (if t.isVisible T then 1 else 0) + (if t.label == .growing then 1 else 0)

/-- A token. -/
def leaf (label : Label) (padding size : Extent) : Tree := node { label, padding, size } []

/-- Is the label that of an error, finished or growing? -/
def isTrouble (l : Label) : Bool := l == .error || l == .growing

/-- Add what a child contributes to its parent. The roles are those of the children to come. -/
def absorb (T : Tables) (trouble : Bool) :
    Summary × List (Option Role) × Bool → Tree → Summary × List (Option Role) × Bool
  | (s, roles, isFirst), t =>
    let u := t.summary
    let skipped :=
      if trouble && !u.isExtra && !(t.isError && t.children.isEmpty) then
        if t.isVisible T then Cost.skippedTree
        else if t.children.isEmpty then 0
        else Cost.skippedTree * u.shownChildren
      else 0
    let hasRole := !u.isExtra && t.label != .symbol 0 && (roles.headD none).isSome
    let own := if hasRole || t.isVisible T then 1 else 0
    let s :=
      { s with
        padding := if isFirst then u.padding else s.padding
        size := if isFirst then u.size else s.size + t.total
        cost := s.cost + (if t.label == .growing then 0 else t.cost) + skipped
        weight := s.weight + u.weight
        shown := s.shown + u.shown + own
        shownChildren := s.shownChildren +
          (if own == 1 then 1 else if t.children.isEmpty then 0 else u.shownChildren) }
    (s, if u.isExtra then roles else roles.drop 1, false)

/-- A tree over some children. -/
def parent (T : Tables) (label : Label) (children : List Tree) (roles : List (Option Role)) :
    Tree :=
  let trouble := isTrouble label
  let (s, _, _) := children.foldl (absorb T trouble)
    ({ label, padding := .zero, size := .zero, roles }, roles, true)
  let own := if trouble then
      Cost.recovery + Cost.skippedByte * s.size.bytes + Cost.skippedLine * s.size.lines
    else 0
  node { s with cost := s.cost + own } children

/-! ## Comparing readings -/

mutual

/-- Compare by symbols and by numbers of children, from the top and from the left. -/
def compareShape : Tree → Tree → Ordering
  | node s cs, node u ds =>
    match compare s.label.number u.label.number with
    | .eq => match compare cs.length ds.length with
      | .eq => compareShapes cs ds
      | o => o
    | o => o

/-- Compare trees side by side. -/
def compareShapes : List Tree → List Tree → Ordering
  | c :: cs, d :: ds => match compareShape c d with
    | .eq => compareShapes cs ds
    | o => o
  | _, _ => .eq

end

/-- Is the second of two readings of the same text the better one? The cheaper one is, then the
weightier one. Of two with equal errors the later one, otherwise the one that comes first in
shape. -/
def prefersSecond (a b : Tree) : Bool :=
  if b.cost < a.cost then true
  else if a.cost < b.cost then false
  else if a.summary.weight < b.summary.weight then true
  else if b.summary.weight < a.summary.weight then false
  else if 0 < a.cost then true
  else compareShape a b == .gt

/-- Do two trees make the same step on a stack? Of two with errors only one is kept. -/
def sameStep : Option Tree → Option Tree → Bool
  | none, none => true
  | some a, some b =>
    a.label == b.label &&
      ((0 < a.cost && 0 < b.cost) ||
        (a.summary.padding.bytes == b.summary.padding.bytes &&
          a.summary.size.bytes == b.summary.size.bytes &&
          a.children.length == b.children.length && a.isExtra == b.isExtra))
  | _, _ => false

/-- Split off the extra trees at the end. -/
def splitTrailing (ts : List Tree) : List Tree × List Tree :=
  let (extras, rest) := ts.reverse.span isExtra
  (rest.reverse, extras.reverse)

end Tree

end CustomElement.Parsing
