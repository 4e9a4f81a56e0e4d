-- SUMMARY: The states of the reader: what each expects, what it does at a terminal, and where it goes.
import CustomElement.Grammar.Item

/-! ## The automaton

A state is a set of items, each with the terminals that can follow its production. States are made
as they are reached: `Automaton` holds those made so far. Where a state could both end a production
and go on, precedence decides; where precedence is silent, the state does both. -/

namespace CustomElement.Grammar

/-! ## States -/

/-- The items that make a state, by number and in order, with what can follow each. -/
abbrev Kernel := Array (Nat × TerminalSet)

/-- A state with its items, the phrases and runs that can begin in it, and its terminals. -/
structure State where
  kernel : Kernel
  reached : List (Nat × TerminalSet)
  expected : TerminalSet
  deriving Inhabited

/-- What a reduction does: the symbol it makes, of how many parts, and their roles. -/
structure Reduction where
  result : Symbol
  count : Nat
  weight : Int
  roles : List (Option Role)
  deriving BEq, Repr, Inhabited

/-- What a state can do at a terminal. A shift `again` only takes a run apart in a second way. -/
inductive Action where
  | shift (again : Bool)
  | skip
  | reduce (r : Reduction)
  | accept
  | recover
  deriving BEq, Repr, Inhabited

namespace Tables

/-- Terminals that may stand anywhere. -/
def extras : List Terminal := [.lexeme .comment, .layout .htmlComment]

/-- Terminals that are not looked for after an error, since they would swallow others. -/
def shunned : List Terminal :=
  [.lexeme .doubleJsxText, .lexeme .singleJsxText, .lexeme .doubleQuotedText,
   .lexeme .singleQuotedText, .lexeme .regexPattern, .lexeme .regexFlags, .lexeme .jsxIdentifier,
   .lexeme .characterReference, .lexeme .regexEnd, .text "/>", .text "?:"]

/-- The set of some terminals. -/
def setOf (T : Tables) (ts : List Terminal) : TerminalSet :=
  ts.foldl (fun set t => set ||| .single (T.numbers.getD t 0)) 0

/-- Put the reached place into a table of places. -/
def noteReach (table : Array (Option TerminalSet)) (place : Nat) (follow : TerminalSet) :
    Array (Option TerminalSet) :=
  table.modify place fun old => some (old.getD 0 ||| follow)

/-- The places that a kernel reaches, with what can follow each there. -/
def reachedFrom (T : Tables) (kernel : Kernel) : List (Nat × TerminalSet) :=
  let table := kernel.foldl (fun table (item, follow) =>
    match T.next.getD item none with
    | none => table
    | some symbol =>
      if symbol < terminalCount then table else
      let follow := match (T.items.getD item default).rest with
        | _ :: follower :: _ => T.first.getD follower.symbol 0
        | _ => follow
      ((T.closure.getD (symbol - terminalCount) (Thunk.pure [])).get).foldl (fun table r =>
        noteReach table r.place (if r.open_ then r.follow ||| follow else r.follow)) table)
    (Array.replicate T.parts.size none)
  (table.zipIdx.toList).filterMap fun (follow, place) => follow.map (place, ·)

/-- The state of a kernel. -/
def stateOf (T : Tables) (kernel : Kernel) : State :=
  let reached := T.reachedFrom kernel
  let own := kernel.foldl (fun set (item, follow) =>
    match T.next.getD item none with
    | none => set ||| follow
    | some symbol => if symbol < terminalCount then set ||| .single symbol else set) 0
  let expected := reached.foldl (fun set (place, follow) =>
    set ||| T.leads.getD place 0 ||| (if (T.hollow.getD place none).isSome then follow else 0)) own
  { kernel, reached, expected := expected ||| T.setOf extras }

/-- Put an item into a kernel that is kept in order. -/
def insertItem (kernel : List (Nat × TerminalSet)) (item : Nat) (follow : TerminalSet) :
    List (Nat × TerminalSet) :=
  match kernel with
  | [] => [(item, follow)]
  | (other, set) :: rest =>
    if item < other then (item, follow) :: kernel
    else if item == other then (other, set ||| follow) :: rest
    else (other, set) :: insertItem rest item follow

/-- The kernel that a state moves to over a symbol; empty if it cannot. -/
def successor (T : Tables) (s : State) (symbol : Symbol) : Kernel :=
  let own := s.kernel.foldl (fun kernel (item, follow) =>
    if T.next.getD item none == some symbol then insertItem kernel (T.after.getD item 0) follow
    else kernel) []
  let all := s.reached.foldl (fun kernel (place, follow) =>
    match (T.leading.getD place []).lookup symbol with
    | none => kernel
    | some items => items.foldl (fun kernel item => insertItem kernel item follow) kernel) own
  all.toArray

/-! ## Precedence -/

/-- Does an entry of a chain of precedence speak of a rank, or of one of the symbols? -/
def matchesStanding (rank : Rank) (symbols : List Symbol) : Standing → Bool
  | .level l => rank == .named l
  | .phrase p => symbols.contains (phraseSymbol p)

/-- Compare two sides along one chain, if it holds both. -/
def compareAlong (r₁ : Rank) (s₁ : List Symbol) (r₂ : Rank) (s₂ : List Symbol)
    (saw₁ saw₂ : Bool) : List Standing → Option Ordering
  | [] => none
  | entry :: rest =>
    if matchesStanding r₁ s₁ entry then
      if saw₂ then some .lt else compareAlong r₁ s₁ r₂ s₂ true saw₂ rest
    else if matchesStanding r₂ s₂ entry then
      if saw₁ then some .gt else compareAlong r₁ s₁ r₂ s₂ saw₁ true rest
    else compareAlong r₁ s₁ r₂ s₂ saw₁ saw₂ rest

/-- Which of two constructs binds tighter: by number, where one of the two numbers is not the
middle one, else by the first chain that holds both. -/
def compareRank (r₁ : Rank) (s₁ : List Symbol) (r₂ : Rank) (s₂ : List Symbol) : Ordering :=
  let byChain := (precedence.findSome? (compareAlong r₁ s₁ r₂ s₂ false false)).getD .eq
  match r₁, r₂ with
  | .level a, .level b => if a != 0 || b != 0 then compare a b else byChain
  | .level a, .unranked => if a != 0 then compare a 0 else byChain
  | .unranked, .level b => if b != 0 then compare 0 b else byChain
  | _, _ => byChain

/-! ## Actions -/

/-- What the reductions kept so far have in common. -/
structure Kept where
  items : List Item := []
  rank : Rank := .unranked
  symbols : List Symbol := []
  sides : List (Option Side) := []

/-- Keep the reductions of the highest rank. -/
def keep (k : Kept) (i : Item) : Kept :=
  let add := fun (k : Kept) =>
    { items := k.items ++ [i], rank := i.rank
      symbols := if k.symbols.contains i.result then k.symbols else k.symbols ++ [i.result]
      sides := k.sides ++ [i.side] : Kept }
  if k.items.isEmpty then add k else
  match compareRank i.rank [i.result] k.rank k.symbols with
  | .gt => add {}
  | .eq => add k
  | .lt => k

/-- How a shift and some reductions at one terminal are told apart. -/
inductive Verdict where
  | shiftOnly | reduceOnly | both | again

/-- Decide between a shift and reductions. `going` are the begun items that the terminal goes on
with, `ending` those that it ends. Items of one run alone only divide the run differently. -/
def decide (T : Tables) (going ending : List Item) (kept : Kept) : Verdict :=
  let results := ((going ++ ending).map (·.result)).filter (· != goal) |>.eraseDups
  let firstRun := terminalCount + Phrase.count
  match results with
  | [one] => if firstRun ≤ one && one < terminalCount + T.parts.size then .again else weigh
  | _ => weigh
where
  /-- Weigh ranks, then sides. -/
  weigh : Verdict :=
    let orders := going.map fun i => compareRank i.rank [i.result] kept.rank kept.symbols
    let more := orders.contains .gt
    let less := orders.contains .lt
    if more && !less then .shiftOnly
    else if less && !more then .reduceOnly
    else if more && less then .both
    else if kept.sides.all (· == some .left) then .reduceOnly
    else if kept.sides.all (· == some .right) then .shiftOnly
    else .both

/-- What a state does at a terminal: reductions first, the shift last. -/
def actionsOf (T : Tables) (s : State) (t : Symbol) : List Action :=
  let own := s.kernel.toList.map fun (item, follow) => (T.items.getD item default, follow)
  let hollow := s.reached.filterMap fun (place, follow) =>
    (T.hollow.getD place none).map fun item => (T.items.getD item default, follow)
  let ending := ((hollow ++ own).filter fun (i, follow) =>
    i.rest.isEmpty && TerminalSet.has follow t).map (·.1)
  let shifts := own.any (fun (i, _) => i.rest.head?.any (·.symbol == t)) ||
    s.reached.any fun (place, _) => TerminalSet.has (T.leads.getD place 0) t
  let kept := ending.foldl keep {}
  let reduces := kept.items.map fun i =>
    if i.result == goal then Action.accept
    else .reduce ⟨i.result, i.length, i.weight, i.taken⟩
  if !shifts then
    if reduces.isEmpty && TerminalSet.has (T.setOf extras) t then [.skip] else reduces
  else if reduces.isEmpty then [.shift false]
  else
    let going := (own.filter fun (i, _) => 0 < i.dot && i.rest.head?.any fun cell =>
      TerminalSet.has (T.first.getD cell.symbol 0) t).map (·.1)
    match T.decide going ending kept with
    | .again => reduces ++ [.shift true]
    | .shiftOnly => [.shift false]
    | .reduceOnly => reduces
    | .both => reduces ++ [.shift false]

end Tables

/-! ## The automaton so far -/

/-- A state by number. Zero is the state of a reader that has met an error. -/
abbrev StateId := Nat

/-- The states made so far, and what has been worked out about them. -/
structure Automaton where
  tables : Tables
  states : Array State
  index : Std.HashMap Kernel StateId
  moves : Std.HashMap Nat (Option StateId)
  actions : Std.HashMap Nat (List Action)

namespace Automaton

/-- The state of a reader that has met an error. -/
def errorState : StateId := 0

/-- The state at the beginning of a text. -/
def startState : StateId := 1

/-- One key for a state and a symbol. -/
def key (s : StateId) (symbol : Symbol) : Nat := s * 1024 + symbol

/-- The automaton at the start. -/
def start (T : Tables) : Automaton :=
  let all := (List.range Tables.terminalCount).foldl (fun set t => set ||| .single t) 0
  let error : State := ⟨#[], [], all ^^^ T.setOf Tables.shunned⟩
  let kernel : Kernel := #[(T.itemNumbers.getD Tables.wholeText 0, .single 0)]
  { tables := T, states := #[error, T.stateOf kernel], index := (∅ : Std.HashMap _ _).insert kernel 1
    moves := ∅, actions := ∅ }

/-- The terminals that a state has an action for. -/
def expected (a : Automaton) (s : StateId) : TerminalSet := (a.states.getD s default).expected

/-- The number of a kernel's state, made if it is new. -/
def intern (a : Automaton) (kernel : Kernel) : StateId × Automaton :=
  match a.index.get? kernel with
  | some s => (s, a)
  | none =>
    let s := a.states.size
    let state := a.tables.stateOf kernel
    (s, { a with states := a.states.push state, index := a.index.insert kernel s })

/-- Where a state goes over a symbol, if it can. -/
def move (a : Automaton) (s : StateId) (symbol : Symbol) : Option StateId × Automaton :=
  match a.moves.get? (key s symbol) with
  | some found => (found, a)
  | none =>
    let kernel := a.tables.successor (a.states.getD s default) symbol
    if kernel.isEmpty then
      (none, { a with moves := a.moves.insert (key s symbol) none })
    else
      let (target, a) := a.intern kernel
      (some target, { a with moves := a.moves.insert (key s symbol) (some target) })

/-- What a state does at a terminal. -/
def act (a : Automaton) (s : StateId) (t : Symbol) : List Action × Automaton :=
  match a.actions.get? (key s t) with
  | some found => (found, a)
  | none =>
    let found :=
      if s == errorState then
        if TerminalSet.has (a.tables.setOf Tables.extras) t then [.skip]
        else if TerminalSet.has (a.expected errorState) t then [.recover]
        else []
      else a.tables.actionsOf (a.states.getD s default) t
    (found, { a with actions := a.actions.insert (key s t) found })

end Automaton

end CustomElement.Grammar
