-- SUMMARY: Reading a whole text: round after round, until the best tree is certain.
import CustomElement.Parsing.Recovery

/-! ## Reading a whole text

In every round each active version reads on to the next place in the text. Then the versions are
compared: those that are clearly worse are dropped, and the rest put in order. Reading ends when no
version is left, or none can become better than the best whole tree. -/

namespace CustomElement.Parsing

open Grammar Lexing

namespace Parser

/-! ## Reading on -/

/-- Do the actions of a version in turn. The result tells whether the token is dealt with; if not,
which version the last reduction made, and whether there was a reduction. -/
def perform (v : VersionId) (state : StateId) (token : Tree) :
    List Action → Option VersionId → Bool → ParseM (Bool × Option VersionId × Bool)
  | [], made, reduced => return (false, made, reduced)
  | a :: rest, made, reduced => do
    match a with
    | .shift true => perform v state token rest made reduced
    | .shift false =>
      shift v (← nextState state token.label) token false
      return (true, none, false)
    | .skip =>
      shift v state token true
      return (true, none, false)
    | .reduce r =>
      match ← reduce v r with
      | some w => perform v state token rest (some w) true
      | none => perform v state token rest made true
    | .accept =>
      accept v token
      return (true, none, false)
    | .recover =>
      recover v token
      return (true, none, false)

/-- Reduce until the token can be shifted. A word that is not expected may be a name instead; a
token that cannot be read makes the version wait. -/
def digest (v : VersionId) : Nat → Tree → ParseM Unit
  | 0, token => onStack fun s => s.pause v token
  | fuel + 1, token => do
    let state ← ask (·.state v)
    let (done, made, reduced) ← perform v state token (← actionsAt state token.label) none false
    if done then return
    match made with
    | some w =>
      onStack (·.renumber w v)
      digest v fuel token
    | none =>
      if reduced then onStack (·.halt v)
      else
        let name ← nameLabel
        let isName ← if token.summary.isWord && token.label != name then
            pure !(← actionsAt state name).isEmpty
          else pure false
        if isName then
          digest v fuel (.node { token.summary with label := name } token.children)
        else onStack fun s => s.pause v token

/-- Read one token of a version. -/
def readOn (v : VersionId) : ParseM Unit := do
  let token ← readToken v
  digest v 100000 token

/-- Let a version read until it has passed the furthest place, and note that place. -/
def readPast (v : VersionId) : Nat → Nat → ParseM Nat
  | 0, furthest => return furthest
  | fuel + 1, furthest => do
    if !(← ask fun s => (s.version v).isActive) then return furthest
    readOn v
    let here ← ask fun s => (s.place v).read.bytes
    if furthest < here || (0 < v && here == furthest) then return here
    else readPast v fuel furthest

/-- Let each version read on in turn; the count is that of the versions at the end. -/
def readRound : Nat → VersionId → Nat → ParseM (Nat × Nat)
  | 0, _, furthest => return (0, furthest)
  | fuel + 1, v, furthest => do
    let size ← ask (·.size)
    if size ≤ v then return (size, furthest)
    let furthest ← readPast v 100000 furthest
    readRound fuel (v + 1) furthest

/-! ## Putting the versions in order -/

/-- Compare a version with those before it. The result is its place at the end, or the place before
it if it is gone. -/
def compareWithEarlier (own : Prospect) : Nat → VersionId → VersionId → ParseM VersionId
  | 0, i, _ => return i + 1
  | fuel + 1, i, j => do
    if i ≤ j then return i + 1
    let s ← ask id
    match compareProspects (prospect s j) own with
    | .takeFirst =>
      onStack (·.removeVersion i)
      return i
    | .preferFirst | .even =>
      if ← merge j i then return i else compareWithEarlier own fuel i (j + 1)
    | .preferSecond =>
      if ← merge j i then return i
      else
        onStack fun s =>
          { s with versions := (s.versions.set! i (s.version j)).set! j (s.version i) }
        compareWithEarlier own fuel i (j + 1)
    | .takeSecond =>
      onStack (·.removeVersion j)
      compareWithEarlier own fuel (i - 1) j

/-- Drop the versions that are given up or clearly worse, and put the rest in order. The result is
the least cost of a version that is not in error. -/
def order : Nat → VersionId → Option Nat → ParseM (Option Nat)
  | 0, _, least => return least
  | fuel + 1, i, least => do
    let s ← ask id
    if s.size ≤ i then return least
    if (s.version i).isHalted then
      onStack (·.removeVersion i)
      order fuel i least
    else
      let own := prospect s i
      let least := if own.inError then least else
        match least with
        | none => some own.cost
        | some l => some (min l own.cost)
      order fuel (← compareWithEarlier own 1000 i 0) least

/-- If all versions wait, let the first one recover; drop the others that wait. `last` is the number
of versions still to be looked at. -/
def resume : Nat → VersionId → Nat → Bool → Option Nat → ParseM (Option Nat)
  | 0, _, _, _, least => return least
  | fuel + 1, i, last, going, least => do
    if last ≤ i then return least
    match (← ask fun s => (s.version i).status) with
    | .paused token =>
      if !going && (← get).accepted < maxVersions then
        let cost ← ask (·.errorCost i)
        onStack fun s => s.modifyVersion i ({ · with status := .active })
        handleError i token
        resume fuel (i + 1) last true (some cost)
      else
        onStack (·.removeVersion i)
        resume fuel i (last - 1) going least
    | _ => resume fuel (i + 1) last true least

/-- Compare the versions at the end of a round. The result is the least cost that reading on can
have; `none` means that nothing bounds it. -/
def condense : ParseM (Option Nat) := do
  onStack Stack.settle
  let least ← order 1000 0 none
  onStack fun s => { s with versions := s.versions.extract 0 maxVersions }
  resume 1000 0 (← ask (·.size)) false least

/-! ## The whole text -/

/-- Round after round. -/
def run : Nat → Nat → ParseM Unit
  | 0, _ => return
  | fuel + 1, furthest => do
    let (size, furthest) ← readRound 1000 0 furthest
    let least ← condense
    let done := match (← get).finished, least with
      | some t, some l => t.cost < l
      | some _, none => true
      | none, _ => false
    if done || size = 0 then return else run fuel furthest

end Parser

/-- What the parser knows of the grammar before it reads anything. -/
structure Knowledge where
  tables : Tables
  lexicon : Lexicon

/-- The knowledge that the rules give. -/
def Knowledge.ofRules : Knowledge :=
  let tables := Tables.build
  ⟨tables, .build tables⟩

/-- The tree of a text. Each round reads at least one token or drops a version, so the rounds are
bounded by the length. -/
def Knowledge.parse (k : Knowledge) (text : List Char) : Option Tree :=
  let automaton := Automaton.start k.tables
  let p : Parser :=
    { automaton, lexicon := k.lexicon, stack := .start k.tables Automaton.startState text }
  ((Parser.run (1000 + 100 * text.length) 0).run p).2.finished

end CustomElement.Parsing
