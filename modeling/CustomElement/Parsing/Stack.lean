-- SUMMARY: A stack with several tops that share their lower parts.
import CustomElement.Parsing.Tree
import CustomElement.Grammar.Automaton

/-! ## The stack of readings

While the text can be read in several ways, each way is a version: a top node of a graph whose
links lead down to the start. Versions that come to the same state at the same place with the same
errors are merged; the node they share then has one link for each. -/

namespace CustomElement.Parsing

open Grammar

/-! ## Nodes -/

/-- A place in the text: what has been read, and what remains. -/
structure Place where
  read : Extent
  rest : List Char
  deriving Inhabited

/-- The place after some more text. -/
def Place.advance (p : Place) (e : Extent) : Place := ⟨p.read + e, p.rest.drop e.chars⟩

/-- A node of the stack, by number. -/
abbrev NodeId := Nat

/-- A step down to an earlier node, over a tree or over nothing. -/
structure Link where
  below : NodeId
  tree : Option Tree
  deriving Inhabited

/-- A node of the stack: a state at a place, and what the way there has cost. -/
structure StackNode where
  state : StateId
  links : List Link
  cost : Nat
  count : Nat
  weight : Int
  place : Place
  deriving Inhabited

/-! ## Versions -/

/-- Where a version stands: ready to go on, waiting with a token that it cannot read, or given
up. -/
inductive Status where
  | active
  | paused (token : Tree)
  | halted
  deriving Inhabited

/-- An earlier state of a version, to which an error may go back. -/
structure Earlier where
  place : Place
  depth : Nat
  state : StateId
  deriving Inhabited

/-- A version: its top node, and how far it had come at its last error. -/
structure Version where
  top : NodeId
  countAtError : Nat := 0
  status : Status := .active
  history : Option (List Earlier) := none
  deriving Inhabited

/-- Is the version ready to go on? -/
def Version.isActive (v : Version) : Bool :=
  match v.status with
  | .active => true
  | _ => false

/-- Is the version waiting? -/
def Version.isPaused (v : Version) : Bool :=
  match v.status with
  | .paused _ => true
  | _ => false

/-- Is the version given up? -/
def Version.isHalted (v : Version) : Bool :=
  match v.status with
  | .halted => true
  | _ => false

/-- The stack: all nodes, and the versions from the most promising to the least. -/
structure Stack where
  tables : Tables
  nodes : Array StackNode
  versions : Array Version

/-- A version by its place in the order. -/
abbrev VersionId := Nat

namespace Stack

/-- The node with a number. -/
def node (s : Stack) (n : NodeId) : StackNode := s.nodes.getD n default

/-- The version at a place in the order. -/
def version (s : Stack) (v : VersionId) : Version := s.versions.getD v default

/-- The top node of a version. -/
def top (s : Stack) (v : VersionId) : StackNode := s.node (s.version v).top

/-- The state of a version. -/
def state (s : Stack) (v : VersionId) : StateId := (s.top v).state

/-- The place of a version. -/
def place (s : Stack) (v : VersionId) : Place := (s.top v).place

/-- How many versions there are. -/
def size (s : Stack) : Nat := s.versions.size

/-- Change a version. -/
def modifyVersion (s : Stack) (v : VersionId) (f : Version → Version) : Stack :=
  { s with versions := s.versions.modify v f }

/-- Change a node. -/
def modifyNode (s : Stack) (n : NodeId) (f : StackNode → StackNode) : Stack :=
  { s with nodes := s.nodes.modify n f }

/-- Remove a version. -/
def removeVersion (s : Stack) (v : VersionId) : Stack :=
  { s with versions := s.versions.eraseIdxIfInBounds v }

/-- Give a version up. -/
def halt (s : Stack) (v : VersionId) : Stack := s.modifyVersion v ({ · with status := .halted })

/-- Let a version wait with a token. -/
def pause (s : Stack) (v : VersionId) (token : Tree) : Stack :=
  let count := (s.top v).count
  s.modifyVersion v ({ · with status := .paused token, countAtError := count })

/-- Put one version in the place of another. -/
def renumber (s : Stack) (source target : VersionId) : Stack :=
  if source = target then s else
  let moved := s.version source
  let history := match moved.history with
    | none => (s.version target).history
    | some h => some h
  { s with versions := (s.versions.set! target { moved with history }).eraseIdxIfInBounds source }

/-- Add a version like another one. -/
def copyVersion (s : Stack) (v : VersionId) : VersionId × Stack :=
  (s.size, { s with versions := s.versions.push { s.version v with history := none } })

/-- The stack with one version at the start of a text. -/
def start (T : Tables) (state : StateId) (text : List Char) : Stack :=
  { tables := T
    nodes := #[⟨state, [], 0, 0, 0, ⟨.zero, text⟩⟩]
    versions := #[{ top := 0 }] }

/-- Push a tree, or a gap for an error to come. -/
def push (s : Stack) (v : VersionId) (tree : Option Tree) (state : StateId) : Stack :=
  let below := (s.version v).top
  let b := s.node below
  let n : StackNode := match tree with
    | none => { b with state, links := [⟨below, none⟩] }
    | some t =>
      { state, links := [⟨below, some t⟩], cost := b.cost + t.cost
        count := b.count + t.shownCount s.tables, weight := b.weight + t.summary.weight
        place := b.place.advance t.total }
  let id := s.nodes.size
  let s := { s with nodes := s.nodes.push n }
  s.modifyVersion v fun v =>
    { v with top := id, countAtError := if tree.isNone then n.count else v.countAtError }

/-! ## Merging -/

/-- The weight of a tree on a link. -/
def linkWeight (t : Option Tree) : Int := (t.map (·.summary.weight)).getD 0

/-- How many links a node may have. -/
def maxLinks : Nat := 8

/-- Give a node another link. A link over the same step joins the one that is there, as far down as
both ways agree. `fuel` bounds the depth. -/
def addLink (fuel : Nat) (s : Stack) (self : NodeId) (link : Link) : Stack :=
  match fuel with
  | 0 => s
  | fuel + 1 =>
    if link.below = self then s else
    let n := s.node self
    let weightBelow := (s.node link.below).weight + linkWeight link.tree
    let same := fun (l : Link) => Tree.sameStep l.tree link.tree
    let mergeable := fun (l : Link) =>
      let a := s.node l.below
      let b := s.node link.below
      a.state == b.state && a.place.read.bytes == b.place.read.bytes && a.cost == b.cost
    match n.links.findIdx? fun l => same l && (l.below == link.below || mergeable l) with
    | some i =>
      let found := n.links.getD i default
      if found.below = link.below then
        if linkWeight found.tree < linkWeight link.tree then
          s.modifyNode self fun n => { n with links := n.links.set i link, weight := weightBelow }
        else s
      else
        let s := (s.node link.below).links.foldl (fun s l => addLink fuel s found.below l) s
        s.modifyNode self fun n => { n with weight := max n.weight weightBelow }
    | none =>
      if maxLinks ≤ n.links.length then s else
      let b := s.node link.below
      let count := b.count + (link.tree.map (·.shownCount s.tables)).getD 0
      s.modifyNode self fun n =>
        { n with
          links := n.links ++ [link], count := max n.count count
          weight := max n.weight weightBelow }

/-- Can two versions be merged? -/
def canMerge (s : Stack) (v w : VersionId) : Bool :=
  (s.version v).isActive && (s.version w).isActive && s.state v == s.state w &&
    (s.place v).read.bytes == (s.place w).read.bytes && (s.top v).cost == (s.top w).cost

/-- Merge the second version into the first, if they can be merged. -/
def merge? (s : Stack) (v w : VersionId) : Option Stack :=
  if !s.canMerge v w then none else
  let self := (s.version v).top
  let s := (s.top w).links.foldl (fun s l => addLink s.nodes.size s self l) s
  let count := (s.top v).count
  let s := if s.state v == Automaton.errorState then
      s.modifyVersion v ({ · with countAtError := count })
    else s
  some (s.removeVersion w)

/-! ## Measures of a version -/

/-- What the errors of a version cost so far. -/
def errorCost (s : Stack) (v : VersionId) : Nat :=
  let n := s.top v
  let open_ := (s.version v).isPaused ||
    (n.state == Automaton.errorState && (n.links.head?.all (·.tree.isNone)))
  n.cost + (if open_ then Cost.recovery else 0)

/-- Lower what the versions had added at their last errors to what they have now. -/
def settle (s : Stack) : Stack :=
  { s with versions := s.versions.map fun v =>
      { v with countAtError := min v.countAtError (s.node v.top).count } }

/-- How many nodes a version has added since its last error. -/
def countSinceError (s : Stack) (v : VersionId) : Nat :=
  (s.top v).count - (s.version v).countAtError

/-- Has a version read any text since its last error? -/
def hasAdvanced (s : Stack) (v : VersionId) : Bool :=
  (s.top v).cost == 0 || go s.nodes.size (s.top v)
where
  /-- Search down along the first links. -/
  go : Nat → StackNode → Bool
    | 0, _ => false
    | fuel + 1, n =>
      match n.links.head? with
      | some ⟨below, some t⟩ =>
        if 0 < t.total.bytes then true
        else if (s.version v).countAtError < n.count && t.cost == 0 then go fuel (s.node below)
        else false
      | _ => false

/-! ## Ways down -/

/-- A way down from the top of a version: the node reached, the trees passed in the order of the
text, and their number without extra ones. -/
structure Way where
  node : NodeId
  trees : List Tree
  count : Nat
  deriving Inhabited

/-- What to do with a way: take it, and whether to go no further. -/
structure Choice where
  take : Bool := false
  stop : Bool := false

/-- How many ways are followed at once. -/
def maxWays : Nat := 64

/-- A round of ways: those that went on, last one first, those that branched off, those taken, last
one first, and what the visitor remembers. -/
structure Round (σ : Type) where
  onward : List Way
  fresh : List Way
  taken : List Way
  memory : σ

/-- Follow one round of ways one step down. Each goes on over its first link; further links start
new ways behind all others. -/
def stepWays {σ : Type} (s : Stack) (visit : σ → Way → Choice × σ) :
    List Way → Round σ → Round σ
  | [], r => r
  | w :: ws, r =>
    let n := s.node w.node
    let (choice, memory) := visit r.memory w
    let r := { r with memory, taken := if choice.take then w :: r.taken else r.taken }
    let follow := fun (l : Link) =>
      match l.tree with
      | some t => ⟨l.below, t :: w.trees, w.count + (if t.isExtra then 0 else 1)⟩
      | none => (⟨l.below, w.trees, w.count + 1⟩ : Way)
    match n.links with
    | [] => stepWays s visit ws r
    | first :: more =>
      if choice.stop then stepWays s visit ws r else
      let room := maxWays - (r.onward.length + 1 + ws.length + r.fresh.length)
      stepWays s visit ws
        { r with onward := follow first :: r.onward, fresh := r.fresh ++ (more.take room).map follow }

/-- Follow all ways down from a version, and collect those that are taken. -/
def ways {σ : Type} (s : Stack) (v : VersionId) (visit : σ → Way → Choice × σ) (init : σ) :
    List Way × σ :=
  go (s.nodes.size + 2) [⟨(s.version v).top, [], 0⟩] ⟨[], [], [], init⟩
where
  /-- Round after round. -/
  go : Nat → List Way → Round σ → List Way × σ
    | 0, _, r => (r.taken.reverse, r.memory)
    | fuel + 1, ws, r =>
      if ws.isEmpty then (r.taken.reverse, r.memory) else
      let r := stepWays s visit ws { r with onward := [], fresh := [] }
      go fuel (r.onward.reverse ++ r.fresh) r

/-- The trees on a way that a version was reduced to. -/
structure Popped where
  trees : List Tree
  version : VersionId
  deriving Inhabited

/-- Put popped trees behind the last ones of their version. -/
def insertPopped (pops : List Popped) (new : Popped) : List Popped :=
  match pops.reverse.span (·.version != new.version) with
  | (after, found :: before) => (found :: before).reverse ++ new :: after.reverse
  | (_, []) => pops ++ [new]

/-- Make a version of each node where ways end. -/
def popTo (s : Stack) (v : VersionId) (taken : List Way) : List Popped × Stack :=
  let countAtError := (s.version v).countAtError
  taken.foldl (fun (pops, s) w =>
    match pops.reverse.find? fun sl => (s.version sl.version).top == w.node with
    | some found => (insertPopped pops ⟨w.trees, found.version⟩, s)
    | none =>
      let id := s.size
      (pops ++ [⟨w.trees, id⟩],
        { s with versions := s.versions.push { top := w.node, countAtError } })) ([], s)

/-- Pop a number of trees, extra ones not counted. -/
def pop (s : Stack) (v : VersionId) (count : Nat) : List Popped × Stack :=
  let (taken, ()) := s.ways v
    (fun () w => (if w.count == count then { take := true, stop := true } else {}, ())) ()
  s.popTo v taken

/-- Pop everything. -/
def popAll (s : Stack) (v : VersionId) : List Popped × Stack :=
  let (taken, ()) := s.ways v
    (fun () w => ({ take := (s.node w.node).links.isEmpty }, ())) ()
  s.popTo v taken

/-- Pop an error from the top, if there is one. -/
def popError (s : Stack) (v : VersionId) : List Tree × Stack :=
  if !(s.top v).links.any fun l => l.tree.any Tree.isError then ([], s) else
  let (taken, _) := s.ways v (fun found w =>
    match w.trees with
    | [] => ({}, found)
    | t :: _ =>
      if !found && t.isError then ({ take := true, stop := true }, true)
      else ({ stop := true }, found)) false
  match s.popTo v taken with
  | ([], s) => ([], s)
  | (sl :: _, s) => (sl.trees, s.renumber sl.version v)

/-- Is the state at that depth noted already? Only the notes of the same depth are searched. -/
def isNoted (notes : List Earlier) (depth : Nat) (state : StateId) : Bool :=
  (notes.takeWhile (depth ≤ ·.depth)).any fun e => e.depth == depth && e.state == state

/-- Note the earlier states of a version down to a depth. -/
def recordHistory (s : Stack) (v : VersionId) (maxDepth : Nat) : Stack :=
  let (_, notes) := s.ways v (fun (notes : List Earlier) w =>
    if maxDepth < w.count then ({ stop := true }, notes) else
    let n := s.node w.node
    if isNoted notes w.count n.state then ({}, notes)
    else ({}, ⟨n.place, w.count, n.state⟩ :: notes)) []
  s.modifyVersion v ({ · with history := some notes.reverse })

end Stack

end CustomElement.Parsing
