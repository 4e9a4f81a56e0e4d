-- SUMMARY: The visible nodes of a syntax tree with their positions, and the search for the first error.
import CustomElement.Parsing.Run
import CustomElement.Text.Offsets

/-! ## Visible nodes

A tree of visible nodes: hidden parts have given their children to the node above. Positions count
bytes and lines from the start of the text, both from zero. -/

namespace CustomElement.Parsing

open Grammar

/-- What a visible node is. -/
inductive Kind where
  | phrase (p : Phrase)
  | terminal (t : Terminal)
  | role (r : Role)
  | error
  deriving DecidableEq, Repr, Inhabited

namespace Kind

/-- The name of a kind in a message about a missing token. -/
def name : Kind → String
  | phrase p => p.declarationName
  | terminal t => t.name?.getD ""
  | role r => r.name
  | error => "ERROR"

/-- Does a node of the kind have a meaning of its own? -/
def isNamed : Kind → Bool
  | phrase _ | error => true
  | terminal t => t.isNamed
  | role r => r.isNamed

end Kind

/-- A position in the text. -/
structure Point where
  byte : Nat
  line : Nat
  deriving DecidableEq, Repr, Inhabited

/-- Is a point between characters and on the line that it says? -/
def Point.liesOn (lines : Array (Option Nat)) (p : Point) : Bool :=
  lines.getD p.byte none == some p.line

/-- A visible node. -/
inductive Node where
  | mk (kind : Kind) (isMissing hasError isDeclaration : Bool) (start stop : Point)
      (children : List Node)
  deriving Inhabited

namespace Node

/-- What the node is. -/
def kind : Node → Kind
  | mk k _ _ _ _ _ _ => k

/-- Was the node's token supplied by the parser? -/
def isMissing : Node → Bool
  | mk _ m _ _ _ _ _ => m

/-- Is there an error in the node? -/
def hasError : Node → Bool
  | mk _ _ e _ _ _ _ => e

/-- Does the node stand in the place of a declaration? A construct may be a declaration in one
place and an expression in another. -/
def isDeclaration : Node → Bool
  | mk _ _ _ d _ _ _ => d

/-- Where the node begins. -/
def start : Node → Point
  | mk _ _ _ _ s _ _ => s

/-- Where the node ends. -/
def stop : Node → Point
  | mk _ _ _ _ _ s _ => s

/-- The nodes directly below. -/
def children : Node → List Node
  | mk _ _ _ _ _ _ cs => cs

/-- Is the node an error or a missing token? -/
def isTrouble (n : Node) : Bool := n.kind == .error || n.isMissing

/-! ## From trees -/

/-- The kind of a label, unless a role decides it. -/
def kindOf (T : Tables) (l : Label) : Option Role → Kind
  | some r => .role r
  | none =>
    match l with
    | .symbol s =>
      if s < Tables.terminalCount then .terminal (T.terminals.getD s .endOfInput)
      else match T.parts.getD (s - Tables.terminalCount) (.phrase .program) with
        | .phrase p => .phrase p
        | _ => .error
    | _ => .error

/-- A position by the text before it. -/
def pointAt (e : Extent) : Point := ⟨e.bytes, e.lines⟩

mutual

/-- The visible nodes of a tree that begins after some text. `declared` says that the tree stands
in the place of a declaration. -/
def ofTree (T : Tables) (before : Extent) (role : Option Role) (declared : Bool) :
    Tree → List Node
  | .node s cs =>
    if role.isSome || Tree.isVisible T (.node s []) then
      let start := before + s.padding
      [.mk (kindOf T s.label role) s.isMissing (0 < Tree.cost (.node s [])) declared
        (pointAt start) (pointAt (start + s.size)) (ofTrees T before s.roles false cs)]
    else ofTrees T before s.roles (kindOf T s.label none == .phrase .declaration) cs

/-- The visible nodes of trees side by side; the roles are those of the trees that are not
extra. -/
def ofTrees (T : Tables) (before : Extent) (roles : List (Option Role)) (declared : Bool) :
    List Tree → List Node
  | [] => []
  | t :: ts =>
    let role := if t.isExtra then none else (roles.head?).join
    let rest := if t.isExtra then roles else roles.drop 1
    ofTree T before role declared t ++ ofTrees T (before + t.total) rest declared ts

end

/-! ## Nodes and the text

A node lies on a text if it begins and ends between characters, its line is right, and its children
follow one another inside it. `lines` gives the line of each byte that begins a character. -/

mutual

/-- Does a node with all below it lie on the text? -/
def liesOn (lines : Array (Option Nat)) : Node → Bool
  | mk _ _ _ _ start stop cs =>
    start.liesOn lines && stop.liesOn lines && lieWithin lines start.byte stop.byte cs

/-- Do nodes lie on the text, one behind the other between two bytes? -/
def lieWithin (lines : Array (Option Nat)) (first last : Nat) : List Node → Bool
  | [] => first ≤ last
  | n :: ns =>
    first ≤ n.start.byte && n.start.byte ≤ n.stop.byte && n.liesOn lines &&
      lieWithin lines n.stop.byte last ns

end

/-! ## The first error -/

mutual

/-- The first error or missing token below a node, in the order of the text. Nodes that are marked
as free of errors are not searched. -/
def firstError? : Node → Option Node
  | mk _ _ _ _ _ _ cs => firstErrorAmong? cs

/-- The first error or missing token among nodes and below them. -/
def firstErrorAmong? : List Node → Option Node
  | [] => none
  | n :: ns =>
    if n.isTrouble then some n
    else if n.hasError then
      match firstError? n with
      | some found => some found
      | none => firstErrorAmong? ns
    else firstErrorAmong? ns

end

end Node

/-- The root node of a text's tree. A tree that does not lie on the text is none. -/
def Knowledge.read (k : Knowledge) (text : List Char) : Option Node :=
  ((k.parse text).bind fun t => (Node.ofTree k.tables .zero none false t).head?).filter
    (Node.liesOn (Text.lineTable 0 text).toArray)

end CustomElement.Parsing
