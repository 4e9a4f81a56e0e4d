-- SUMMARY: Productions with a dot, their order, and the tables that say what can begin and follow what.
import CustomElement.Grammar.Production
import Std.Data.HashMap

/-! ## Items

An item is a production with a dot in it: what stands before the dot has been read. Two items that
agree on what is still to be read, and on all that a later reduction depends on, are one item;
which symbols were read before the dot is forgotten. -/

namespace CustomElement.Grammar

deriving instance Ord for Level, Rank, Side, Role

/-- A symbol by number: terminals first, then phrases, then runs. -/
abbrev Symbol := Nat

/-- A step with its symbol numbered. -/
structure Cell where
  symbol : Symbol
  rank : Rank
  side : Option Side
  role : Option Role
  deriving BEq, Hashable, Ord, Repr, Inhabited

/-- A production with a dot. `rank` and `side` are those of the step before the dot, and `taken`
holds the roles of all steps before it. -/
structure Item where
  dot : Nat
  result : Symbol
  weight : Int
  length : Nat
  rank : Rank
  side : Option Side
  taken : List (Option Role)
  rest : List Cell
  deriving BEq, Hashable, Ord, Repr, Inhabited

namespace Item

/-- A production before its first step. -/
def start (result : Symbol) (weight : Int) (cells : List Cell) : Item :=
  ⟨0, result, weight, cells.length, .unranked, none, [], cells⟩

/-- The item after its next step. -/
def advance (i : Item) : Item :=
  match i.rest with
  | [] => i
  | cell :: rest =>
    { i with dot := i.dot + 1, rank := cell.rank, side := cell.side
             taken := i.taken ++ [cell.role], rest }

/-- An item and all that it becomes. -/
def path (i : Item) : Nat → List Item
  | 0 => [i]
  | n + 1 => i :: i.advance.path n

end Item

/-! ## Sets of terminals -/

/-- A set of terminals, one bit for each. -/
abbrev TerminalSet := Nat

namespace TerminalSet

/-- The set of one terminal. -/
def single (t : Symbol) : TerminalSet := 1 <<< t

/-- Is the terminal in the set? -/
def has (s : TerminalSet) (t : Symbol) : Bool := s.testBit t

end TerminalSet

/-! ## Tables -/

/-- The bodies of the runs in a rule, inner ones first. -/
def Rule.runs : Rule → List Rule
  | .blank | .terminal _ | .part _ => []
  | .seq parts => (parts.attach.map fun ⟨r, _⟩ => r.runs).flatten
  | .choice parts => (parts.attach.map fun ⟨r, _⟩ => r.runs).flatten
  | .many1 body => body.runs ++ [body]
  | .ranked _ _ body | .favour _ body | .called _ body => body.runs

/-- What a closure reaches: a phrase or run by its place, the terminals that can follow it there,
and whether what follows the starting point can follow it too. -/
structure Reach where
  place : Nat
  follow : TerminalSet
  open_ : Bool
  deriving Inhabited

/-- All that the automaton looks up about the grammar. Phrases and runs are indexed by their place
after the terminals. -/
structure Tables where
  terminals : Array Terminal
  numbers : Std.HashMap Terminal Symbol
  parts : Array Part
  items : Array Item
  itemNumbers : Std.HashMap Item Nat
  /-- For each item the symbol after the dot. -/
  next : Array (Option Symbol)
  /-- For each item the one after its next step. -/
  after : Array Nat
  /-- For each symbol the terminals that can begin it. -/
  first : Array TerminalSet
  /-- For each phrase or run, the symbols that begin its productions and the items after them. -/
  leading : Array (List (Symbol × List Nat))
  /-- For each phrase or run, the terminals among those symbols. -/
  leads : Array TerminalSet
  /-- For each phrase or run that can be empty, the item of its empty production. -/
  hollow : Array (Option Nat)
  /-- For each symbol, whether its nodes can be seen in a tree. -/
  visible : Array Bool
  /-- For each phrase or run, what its beginning can begin with. -/
  closure : Array (Thunk (List Reach))

namespace Tables

/-- How many terminals there are; phrases and runs are numbered from here. -/
def terminalCount : Nat := Terminal.all.length

/-- The number of a phrase. -/
def phraseSymbol (p : Phrase) : Symbol := terminalCount + p.number

/-- The symbol of a whole text, above all others. -/
def goal : Symbol := 1000

/-- The phrases and runs in order. -/
def allParts : Array Part :=
  let runs := (Phrase.all.flatMap fun p => p.rule.runs).foldl
    (fun found body => if found.contains body then found else found.push body) #[]
  (Phrase.all.map Part.phrase).toArray ++ runs.map Part.run

/-- The sets of terminals that can begin each phrase or run, as far as `rounds` steps show. -/
def firstSets (heads : Array (List Symbol)) : Nat → Array TerminalSet → Array TerminalSet
  | 0, sets => sets
  | rounds + 1, sets =>
    let look := fun s =>
      if s < terminalCount then TerminalSet.single s else sets.getD (s - terminalCount) 0
    let next := heads.map fun hs => hs.foldl (fun set s => set ||| look s) 0
    if next == sets then sets else firstSets heads rounds next

/-- Follow the edges from the pending places until nothing new is found. -/
def spread (edges : Array (List Reach)) :
    Nat → List Reach → Std.HashMap Nat Reach → Std.HashMap Nat Reach
  | 0, _, found => found
  | _, [], found => found
  | fuel + 1, r :: pending, found =>
    let old := found.getD r.place ⟨r.place, 0, false⟩
    let now : Reach := ⟨r.place, old.follow ||| r.follow, old.open_ || r.open_⟩
    if found.contains r.place && now.follow == old.follow && now.open_ == old.open_ then
      spread edges fuel pending found
    else
      let onward := (edges.getD r.place []).map fun e =>
        ⟨e.place, if e.open_ then e.follow ||| now.follow else e.follow, e.open_ && now.open_⟩
      spread edges fuel (onward ++ pending) (found.insert r.place now)

/-- Add an item under the symbol that leads to it. -/
def addLeading (table : List (Symbol × List Nat)) (s : Symbol) (item : Nat) :
    List (Symbol × List Nat) :=
  match table with
  | [] => [(s, [item])]
  | (t, items) :: rest =>
    if s == t then (t, if items.contains item then items else items ++ [item]) :: rest
    else (t, items) :: addLeading rest s item

/-- The productions of every phrase and run, as items before their first step. -/
def startItems (parts : Array Part) (numbers : Std.HashMap Terminal Symbol) :
    Array (List Item) :=
  let partNumbers := parts.zipIdx.foldl
    (fun (m : Std.HashMap Part Symbol) (p, i) => m.insert p (terminalCount + i)) ∅
  let number : Part → Symbol
    | .terminal t => numbers.getD t 0
    | p => partNumbers.getD p 0
  parts.zipIdx.map fun ((p : Part), i) => p.productions.map fun (q : Production) =>
    .start (terminalCount + i) q.weight
      (q.steps.map fun s => ⟨number s.part, s.rank, s.side, s.role⟩)

/-- The item of a whole text that has not been begun. -/
def wholeText : Item := .start goal 0 [⟨phraseSymbol .program, .unranked, none, none⟩]

/-- All items, each once, in order. -/
def allItems (starts : Array (List Item)) : Array Item :=
  let found := starts.foldl (fun (found : Std.HashSet Item) (is : List Item) =>
    is.foldl (fun found i => found.insertMany (i.path i.length)) found)
    ((∅ : Std.HashSet Item).insertMany (wholeText.path 1))
  found.toArray.qsort fun a b => compare a b == .lt

/-- What the productions of one phrase or run can begin with. -/
def edgesOf (first : Array TerminalSet) (starts : List Item) : List Reach :=
  starts.foldl (fun (es : List Reach) (i : Item) =>
    match i.rest with
    | [] => es
    | cell :: rest =>
      if cell.symbol < terminalCount then es else
      let place := cell.symbol - terminalCount
      let e : Reach := match rest with
        | [] => ⟨place, 0, true⟩
        | follower :: _ => ⟨place, first.getD follower.symbol 0, false⟩
      if es.any fun f => f.place == e.place && f.follow == e.follow && f.open_ == e.open_ then es
      else e :: es) []

/-- The tables of the grammar. -/
def build : Tables :=
  let terminals := Terminal.all.toArray
  let numbers := terminals.zipIdx.foldl
    (fun (m : Std.HashMap Terminal Symbol) (t, i) => m.insert t i) ∅
  let parts := allParts
  let starts := startItems parts numbers
  let items := allItems starts
  let itemNumbers := items.zipIdx.foldl
    (fun (m : Std.HashMap Item Nat) (i, n) => m.insert i n) ∅
  let numberOf := fun (i : Item) => itemNumbers.getD i 0
  let heads := starts.map fun (is : List Item) =>
    (is.filterMap fun (i : Item) => i.rest.head?.map (·.symbol)).eraseDups
  let first := (Array.range terminalCount).map TerminalSet.single ++
    firstSets heads 400 (Array.replicate parts.size 0)
  let edges := starts.map (edgesOf first)
  { terminals, numbers, parts, items, itemNumbers, first
    next := items.map fun (i : Item) => i.rest.head?.map (·.symbol)
    after := items.map fun (i : Item) => numberOf i.advance
    leading := starts.map fun (is : List Item) => is.foldl (fun table (i : Item) =>
      match i.rest with
      | [] => table
      | cell :: _ => addLeading table cell.symbol (numberOf i.advance)) []
    leads := heads.map fun (hs : List Symbol) => hs.foldl (fun set s =>
      if s < terminalCount then set ||| TerminalSet.single s else set) 0
    hollow := starts.map fun (is : List Item) =>
      (is.find? fun (i : Item) => i.rest.isEmpty).map numberOf
    visible := terminals.map (fun (t : Terminal) => t.name?.isSome) ++
      parts.map fun (p : Part) =>
        match p with
        | .phrase p => !p.isHidden
        | _ => false
    closure := (Array.range parts.size).map fun n =>
      Thunk.mk fun _ => (spread edges 100000 [⟨n, 0, true⟩] ∅).toList.map (·.2) }

end Tables

end CustomElement.Grammar
