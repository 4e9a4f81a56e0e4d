-- SUMMARY: Going on after an error: supplying a token, going back, or skipping.
import CustomElement.Parsing.Parser

/-! ## Recovery

When no version can read its token, the best one recovers. It completes what can be completed,
tries to supply one missing token, and otherwise enters the error state: there each token either
leads back to an earlier state that expects it, or is skipped. -/

namespace CustomElement.Parsing

open Grammar Lexing

namespace Parser

/-- How far back an error may go. -/
def maxHistory : Nat := 16

/-! ## Completing -/

/-- Add the actions at one terminal to what can be done in a state: whether something can be
shifted, and which reductions there are, one for each symbol and count. -/
def collectActions (actions : List Action) (found : Bool × List Reduction) :
    Bool × List Reduction :=
  actions.foldl (fun (shifts, reductions) a =>
    match a with
    | .shift again => (shifts || !again, reductions)
    | .recover => (true, reductions)
    | .reduce r =>
      if r.count = 0 || reductions.any fun q => q.result == r.result && q.count == r.count then
        (shifts, reductions)
      else (shifts, reductions ++ [r])
    | _ => (shifts, reductions)) found

/-- What a state can do at one terminal, or at any but the end of the text. -/
def possibleActions (s : StateId) (at_ : Option Symbol) : ParseM (Bool × List Reduction) := do
  let terminals := match at_ with
    | some t => [t]
    | none => (List.range Tables.terminalCount).drop 1
  let expected := (← get).automaton.expected s
  let mut found := (false, [])
  for t in terminals do
    if TerminalSet.has expected t then
      found := collectActions (← actionsAt s (.symbol t)) found
  return found

/-- Do all reductions of a version, whatever token comes or for one token. The result tells whether
a version can shift then. `initial` is the number of versions at the beginning; `tries` counts the
versions looked at. -/
def completeFrom (start initial : VersionId) (at_ : Option Symbol) :
    Nat → VersionId → Nat → Bool → ParseM Bool
  | 0, _, _, can => return can
  | fuel + 1, v, tries, can => do
    let size ← ask (·.size)
    if size ≤ v then return can
    if ← mergeIntoAny ((List.range v).drop initial) v then
      completeFrom start initial at_ fuel v (tries + 1) can
    else
      let (shifts, reductions) ← possibleActions (← ask (·.state v)) at_
      let mut made : Option VersionId := none
      for r in reductions do
        made ← reduce v r
      let onward := if v = start then size else v + 1
      match shifts, made with
      | true, _ => completeFrom start initial at_ fuel onward (tries + 1) true
      | false, some w =>
        if tries < maxVersions then
          onStack (·.renumber w v)
          completeFrom start initial at_ fuel v (tries + 1) can
        else
          if at_.isSome then onStack (·.removeVersion v)
          completeFrom start initial at_ fuel onward (tries + 1) can
      | false, none =>
        if at_.isSome then onStack (·.removeVersion v)
        completeFrom start initial at_ fuel onward (tries + 1) can

/-- Do all reductions of a version. -/
def complete (v : VersionId) (at_ : Option Symbol) : ParseM Bool := do
  completeFrom v (← ask (·.size)) at_ 10000 v 0 false

/-! ## Supplying a token -/

/-- Does the state reduce first of all at a token? -/
def reducesAt (s : StateId) (l : Label) : ParseM Bool := do
  match ← actionsAt s l with
  | .reduce _ :: _ => return true
  | _ => return false

/-- Try to supply one of some terminals, so that the version can go on with the token. -/
def supplyFrom (v : VersionId) (token : Tree) : List Symbol → ParseM Bool
  | [] => return false
  | m :: rest => do
    let s ← ask (·.state v)
    let after ← nextState s (.symbol m)
    if after == Automaton.errorState || after == s then supplyFrom v token rest
    else if ← reducesAt after token.label then
      let w ← fromStack (·.copyVersion v)
      let missing : Tree := .node
        { label := .symbol m, padding := .zero, size := .zero, isMissing := true } []
      onStack fun st => st.push w (some missing) after
      let at_ := match token.label with
        | .symbol t => if t = 0 then none else some t
        | _ => none
      if ← complete w at_ then return true else supplyFrom v token rest
    else supplyFrom v token rest

/-- Try to supply any terminal. -/
def supply (v : VersionId) (token : Tree) : ParseM Bool := do
  let expected := (← get).automaton.expected (← ask (·.state v))
  supplyFrom v token (((List.range Tables.terminalCount).drop 1).filter
    fun t => TerminalSet.has expected t)

/-! ## Going back -/

/-- Wrap what was read since an earlier state into an error, on each version that was popped to.
The result tells whether one of them is in that state. -/
def wrapSince (state : StateId) : List Stack.Popped → Option VersionId → ParseM Bool
  | [], last => return last.isSome
  | sl :: rest, last => do
    if last == some sl.version then wrapSince state rest last
    else if (← ask (·.state sl.version)) != state then
      onStack (·.halt sl.version)
      wrapSince state rest last
    else
      let errors ← fromStack (·.popError sl.version)
      let inside := (errors.head?.map Tree.children).getD []
      let (own, extras) := Tree.splitTrailing (inside ++ sl.trees)
      if !own.isEmpty then
        let T := (← get).automaton.tables
        let error := (Tree.parent T .error own []).withExtra true
        onStack fun s => s.push sl.version (some error) state
      for e in extras do
        onStack fun s => s.push sl.version (some e) state
      wrapSince state rest (some sl.version)

/-- Go back to an earlier state of a version. -/
def goBack (v : VersionId) (depth : Nat) (state : StateId) : ParseM Bool := do
  wrapSince state (← fromStack fun s => s.pop v depth) none

/-- Look among the earlier states for one that expects the token and is worth going back to. -/
def goBackAmong (v : VersionId) (token : Tree) (before : VersionId) (base : Nat)
    (progressed : Bool) : List Earlier → ParseM Bool
  | [] => return false
  | e :: rest => do
    let next := goBackAmong v token before base progressed rest
    let here ← ask (·.place v)
    if e.state == Automaton.errorState || e.place.read.bytes == here.read.bytes then next
    else
      let taken ← ask fun s => (List.range before).any fun w =>
        s.state w == e.state && (s.place w).read.bytes == here.read.bytes
      if taken then next
      else
        let cost := base + e.depth * Cost.skippedTree +
          (here.read.bytes - e.place.read.bytes) * Cost.skippedByte +
          (here.read.lines - e.place.read.lines) * Cost.skippedLine
        if betterExists (← get) v cost then return false
        else if (← actionsAt e.state token.label).isEmpty then next
        else
          let depth := if progressed then e.depth + 1 else e.depth
          if ← goBack v depth e.state then return true else next

/-! ## Skipping -/

/-- Remove the versions from a place on that are not active. -/
def dropInactive (start : VersionId) : ParseM Unit := onStack fun s =>
  { s with versions := s.versions.extract 0 start ++
      (s.versions.extract start s.versions.size).filter (·.isActive) }

/-- Is the token one that may stand anywhere? -/
def isAnywhere (T : Tables) (l : Label) : Bool :=
  match l with
  | .symbol t => TerminalSet.has (T.setOf Tables.extras) t
  | _ => false

/-- Skip a token: let the error on top of a version grow by it. -/
def skip (v : VersionId) (token : Tree) (progressed : Bool) : ParseM Unit := do
  let T := (← get).automaton.tables
  let token := if isAnywhere T token.label then token.withExtra true else token
  let grown := Tree.parent T .growing [token] []
  if !progressed then
    onStack fun s => s.push v (some grown) Automaton.errorState
  else
    match ← fromStack fun s => s.pop v 1 with
    | [] => onStack fun s => s.push v (some grown) Automaton.errorState
    | sl :: others =>
      if !others.isEmpty then
        onStack fun s => { s with versions := s.versions.extract 0 (sl.version + 1) }
      onStack (·.renumber sl.version v)
      onStack fun s =>
        s.push v (some (.parent T .growing (sl.trees ++ [grown]) [])) Automaton.errorState

/-- Recover with a token: go back to a state that expects it, and also skip it unless that is
clearly worse. At the end of the text everything becomes one error. -/
def recover (v : VersionId) (token : Tree) : ParseM Unit := do
  onStack Stack.settle
  let before ← ask (·.size)
  let history := (← ask fun s => (s.version v).history).getD []
  let progressed := 0 < (← ask (·.countSinceError v))
  let base ← ask (·.errorCost v)
  let wentBack ← if token.isError then pure false
    else goBackAmong v token before base progressed history
  dropInactive before
  if token.label == endLabel then
    let T := (← get).automaton.tables
    onStack fun s => s.push v (some (.parent T .error [] [])) Automaton.startState
    accept v token
  else if wentBack && maxVersions < (← ask (·.size)) then
    onStack (·.halt v)
  else
    let cost := base + Cost.skippedTree + token.total.bytes * Cost.skippedByte +
      token.total.lines * Cost.skippedLine
    if betterExists (← get) v cost then onStack (·.halt v)
    else skip v token progressed

/-! ## Meeting an error -/

/-- Enter the error state on a version and on those that completing it has made; the first one
that can have a token supplied gets a version of its own for that. -/
def enterError (token : Tree) : List VersionId → Bool → ParseM Unit
  | [], _ => return
  | w :: rest, supplied => do
    let supplied ← if supplied then pure true else supply w token
    onStack fun s => s.push w none Automaton.errorState
    enterError token rest supplied

/-- Recover from an error of a version at a token. -/
def handleError (v : VersionId) (token : Tree) : ParseM Unit := do
  let before ← ask (·.size)
  let _ ← complete v none
  let after ← ask (·.size)
  enterError token (v :: (List.range after).drop before) false
  for _ in List.range (after - before) do
    let _ ← merge v before
  onStack fun s => s.recordHistory v maxHistory
  recover v token

end Parser

end CustomElement.Parsing
