-- SUMMARY: One step of reading: shifting, reducing and accepting, on all versions of the stack.
import CustomElement.Parsing.Stack
import CustomElement.Lexing.Token

/-! ## Reading

The parser reads one token at a time for each version of its stack. Where the automaton allows
several actions the version splits; versions that meet again are merged, and of two readings of the
same text one is kept. -/

namespace CustomElement.Parsing

open Grammar Lexing

/-- The parser at work: what it knows of the grammar, its stack, and the best whole tree so far. -/
structure Parser where
  automaton : Automaton
  lexicon : Lexicon
  stack : Stack
  finished : Option Tree := none
  accepted : Nat := 0

/-- A computation that advances the parser. -/
abbrev ParseM := StateM Parser

/-- How many versions are kept from one round to the next. -/
def maxVersions : Nat := 6

/-- How many more there may be within a round. -/
def versionOverflow : Nat := 4

namespace Parser

/-- Look something up in the stack. -/
def ask {α : Type} (f : Stack → α) : ParseM α := do return f (← get).stack

/-- Change the stack. -/
def onStack (f : Stack → Stack) : ParseM Unit := modify fun p => { p with stack := f p.stack }

/-- Change the stack and return something. -/
def fromStack {α : Type} (f : Stack → α × Stack) : ParseM α := do
  let p ← get
  let (a, s) := f p.stack
  set { p with stack := s }
  return a

/-- Merge the second version into the first, if they can be merged. -/
def merge (v w : VersionId) : ParseM Bool := do
  match (← get).stack.merge? v w with
  | none => return false
  | some s =>
    onStack fun _ => s
    return true

/-- Merge a version into the first of some others that it can be merged into. -/
def mergeIntoAny (others : List VersionId) (v : VersionId) : ParseM Bool := do
  match others with
  | [] => return false
  | w :: rest => if ← merge w v then return true else mergeIntoAny rest v

/-! ## The automaton -/

/-- What a state does at a token. -/
def actionsAt (s : StateId) (l : Label) : ParseM (List Action) := do
  match l with
  | .symbol t =>
    let p ← get
    let (found, automaton) := p.automaton.act s t
    set { p with automaton }
    return found
  | _ => return []

/-- Where a state goes over a symbol; the error state if nowhere. -/
def nextState (s : StateId) (l : Label) : ParseM StateId := do
  match l with
  | .symbol symbol =>
    let go : ParseM StateId := do
      let p ← get
      let (target, automaton) := p.automaton.move s symbol
      set { p with automaton }
      return target.getD Automaton.errorState
    if symbol < Tables.terminalCount then
      match (← actionsAt s l).getLast? with
      | some (.shift _) => go
      | some .skip => return s
      | _ => return Automaton.errorState
    else go
  | _ => return Automaton.errorState

/-! ## Tokens -/

/-- The next token of a version, as a tree. -/
def readToken (v : VersionId) : ParseM Tree := do
  let p ← get
  let s := p.stack.state v
  let place := p.stack.place v
  let recovery := p.automaton.expected Automaton.errorState
  let t := nextToken p.lexicon recovery (p.automaton.expected s) (s == Automaton.errorState)
    (p.stack.hasAdvanced v) place.rest (place.read.chars == 0)
  let padding := Extent.ofChars (place.rest.take t.before)
  let size := Extent.ofChars ((place.rest.drop t.before).take t.length)
  let label := match t.terminal with
    | some symbol => Label.symbol symbol
    | none => .error
  return .node { label, padding, size, isExtra := label == .symbol 0, isWord := t.isWord } []

/-- The label of the end of the text. -/
def endLabel : Label := .symbol 0

/-- The label of a name. -/
def nameLabel : ParseM Label := do return .symbol ((← get).lexicon.lexeme .identifier)

/-! ## Shifting and reducing -/

/-- Push a token. -/
def shift (v : VersionId) (state : StateId) (token : Tree) (isExtra : Bool) : ParseM Unit :=
  onStack fun s => s.push v (some (token.withExtra isExtra)) state

/-- Of several readings of the same text choose one: its tree and the extra trees after it. -/
def chooseReading (T : Tables) (r : Reduction) (pops : List Stack.Popped) : Tree × List Tree :=
  let read := fun (sl : Stack.Popped) =>
    let (own, extras) := Tree.splitTrailing sl.trees
    (Tree.parent T (.symbol r.result) own r.roles, extras)
  match pops with
  | [] => (default, [])
  | first :: others => others.foldl (fun best sl =>
      let other := read sl
      if Tree.prefersSecond best.1 other.1 then other else best) (read first)

/-- Group what was popped that belongs to one version. -/
def groupPops (pops : List Stack.Popped) : List (VersionId × List Stack.Popped) :=
  (pops.splitBy fun a b => a.version == b.version).filterMap fun group =>
    group.head?.map fun sl => (sl.version, group)

/-- Put the results of a reduction on the versions that it led to. `removed` counts the versions
that have gone meanwhile. -/
def placeReduced (v : VersionId) (r : Reduction) (halted : Nat) :
    List (VersionId × List Stack.Popped) → Nat → ParseM Unit
  | [], _ => return
  | (version, pops) :: rest, removed => do
    let w := version - removed
    if maxVersions + versionOverflow + halted < w then
      onStack (·.removeVersion w)
      placeReduced v r halted rest (removed + 1)
    else
      let T := (← get).automaton.tables
      let (tree, extras) := chooseReading T r pops
      let state ← nextState (← ask (·.state w)) (.symbol r.result)
      onStack fun s => s.push w (some (tree.addWeight r.weight)) state
      for e in extras do
        onStack fun s => s.push w (some e) state
      let merged ← mergeIntoAny ((List.range w).filter (· != v)) w
      placeReduced v r halted rest (if merged then removed + 1 else removed)

/-- Reduce the trees on top of a version. The result is the first version that this made, if
any. -/
def reduce (v : VersionId) (r : Reduction) : ParseM (Option VersionId) := do
  let before ← ask (·.size)
  let pops ← fromStack fun s => s.pop v r.count
  let halted ← ask fun s => (s.versions.filter (·.isHalted)).size
  placeReduced v r halted (groupPops pops) 0
  return if before < (← ask (·.size)) then some before else none

/-! ## Accepting -/

/-- The whole tree over the trees of a stack: the last one that is not extra takes in the others. -/
def wholeTree (T : Tables) (trees : List Tree) : Tree :=
  match trees.reverse.span Tree.isExtra with
  | (after, t :: before) =>
    .parent T t.label (before.reverse ++ t.children ++ after.reverse) t.summary.roles
  | _ => default

/-- Keep a whole tree if it is better than the one kept so far. -/
def keepWhole (t : Tree) : ParseM Unit := modify fun p =>
  let better := match p.finished with
    | none => true
    | some old => Tree.prefersSecond old t
  { p with accepted := p.accepted + 1, finished := if better then some t else p.finished }

/-- Finish a version at the end of the text. -/
def accept (v : VersionId) (token : Tree) : ParseM Unit := do
  onStack fun s => s.push v (some token) Automaton.startState
  let pops ← fromStack (·.popAll v)
  for sl in pops do
    keepWhole (wholeTree (← get).automaton.tables sl.trees)
  match pops with
  | [] => return
  | sl :: _ => onStack (·.removeVersion sl.version)
  onStack (·.halt v)

/-! ## Comparing versions -/

/-- What decides between two versions. -/
structure Prospect where
  cost : Nat
  count : Nat
  weight : Int
  inError : Bool

/-- The prospect of a version. -/
def prospect (s : Stack) (v : VersionId) : Prospect :=
  let paused := (s.version v).isPaused
  { cost := s.errorCost v + (if paused then Cost.skippedTree else 0)
    count := s.countSinceError v
    weight := (s.top v).weight
    inError := paused || s.state v == Automaton.errorState }

/-- How the first of two versions stands against the second. -/
inductive Comparison where
  | takeFirst | preferFirst | even | preferSecond | takeSecond
  deriving DecidableEq

/-- Compare two versions. Being out of error and having cost less count; a version is given up for
good if its cost is too far behind for what the other has read since. -/
def compareProspects (a b : Prospect) : Comparison :=
  if !a.inError && b.inError then if a.cost < b.cost then .takeFirst else .preferFirst
  else if a.inError && !b.inError then if b.cost < a.cost then .takeSecond else .preferSecond
  else if a.cost < b.cost then
    if Cost.tolerance < (b.cost - a.cost) * (1 + a.count) then .takeFirst else .preferFirst
  else if b.cost < a.cost then
    if Cost.tolerance < (a.cost - b.cost) * (1 + b.count) then .takeSecond else .preferSecond
  else if b.weight < a.weight then .preferFirst
  else if a.weight < b.weight then .preferSecond
  else .even

/-- Would a version that goes on at a cost be worse than one that there is? -/
def betterExists (p : Parser) (v : VersionId) (cost : Nat) : Bool :=
  let s := p.stack
  let own : Prospect :=
    { cost, count := s.countSinceError v, weight := (s.top v).weight, inError := false }
  (p.finished.any fun t => t.cost ≤ cost) ||
    (List.range s.size).any fun w =>
      w != v && (s.version w).isActive && (s.place v).read.bytes ≤ (s.place w).read.bytes &&
        match compareProspects own (prospect s w) with
        | .takeSecond => true
        | .preferSecond => s.canMerge w v
        | _ => false

end Parser

end CustomElement.Parsing
