-- SUMMARY: The productions of a rule: its choices and options spelled out, each a sequence of steps.
import CustomElement.Grammar.Rule
import Std.Data.HashSet

/-! ## Productions

`Rule.productions` spells out the alternatives of a rule. A run of bodies (`many1`) stays one
step; a run is two shorter runs or one body. Phrases marked inline are replaced by each of their
own alternatives, so no state of the automaton ever has to choose whether to finish one. -/

namespace CustomElement.Grammar

deriving instance BEq, Hashable for Rule

/-- What one step of a production consumes. -/
inductive Part where
  | terminal (t : Terminal)
  | phrase (p : Phrase)
  | run (body : Rule)
  deriving BEq, Hashable, Repr, Inhabited

/-- One step of a production, with the rank, side and role that the rule gives it. -/
structure Step where
  part : Part
  rank : Rank
  side : Option Side
  role : Option Role
  deriving BEq, Hashable, Repr, Inhabited

/-- One alternative of a rule. -/
structure Production where
  steps : List Step
  weight : Int
  deriving BEq, Hashable, Repr, Inhabited

namespace Production

/-- The empty alternative. -/
def empty : Production := ⟨[], 0⟩

/-- Of two weights the greater in size holds, the first one on a tie. -/
def heavier (a b : Int) : Int := if a.natAbs < b.natAbs then b else a

/-- One alternative after another. -/
def append (a b : Production) : Production := ⟨a.steps ++ b.steps, heavier a.weight b.weight⟩

/-- Change the last step, if there is one. -/
def mapLast (f : Step → Step) (p : Production) : Production :=
  match p.steps.reverse with
  | [] => p
  | last :: before => { p with steps := (f last :: before).reverse }

end Production

/-- The rank, side and role that surround a part of a rule. -/
structure Setting where
  rank : Rank := .unranked
  side : Option Side := none
  role : Option Role := none

mutual

/-- The alternatives of a rule within a setting. A part that does not end its rule gives the rank
and side around it back to its last step. -/
def Rule.expand (s : Setting) (atEnd : Bool) : Rule → List Production
  | .blank => [.empty]
  | .terminal t => [⟨[⟨.terminal t, s.rank, s.side, s.role⟩], 0⟩]
  | .part p => [⟨[⟨.phrase p, s.rank, s.side, s.role⟩], 0⟩]
  | .many1 body => [⟨[⟨.run body, s.rank, s.side, s.role⟩], 0⟩]
  | .seq parts => Rule.expandSeq s atEnd parts
  | .choice alternatives => Rule.expandChoice s atEnd alternatives
  | .ranked rank side body =>
    let inner := Rule.expand { s with rank := rank, side := side <|> s.side } atEnd body
    if atEnd then inner
    else inner.map (Production.mapLast fun last =>
      { last with rank := s.rank, side := if side.isSome then s.side else last.side })
  | .favour weight body =>
    (Rule.expand s atEnd body).map fun p =>
      { p with weight := Production.heavier weight p.weight }
  | .called role body => Rule.expand { s with role := some role } atEnd body

/-- The alternatives of parts in sequence. -/
def Rule.expandSeq (s : Setting) (atEnd : Bool) : List Rule → List Production
  | [] => [.empty]
  | head :: rest =>
    let heads := Rule.expand s (atEnd && rest.isEmpty) head
    let tails := Rule.expandSeq s atEnd rest
    heads.flatMap fun head => tails.map head.append

/-- The alternatives of a choice. -/
def Rule.expandChoice (s : Setting) (atEnd : Bool) : List Rule → List Production
  | [] => []
  | alternative :: rest => Rule.expand s atEnd alternative ++ Rule.expandChoice s atEnd rest

end

/-- The alternatives of a whole rule. -/
def Rule.productions (r : Rule) : List Production := r.expand {} true

/-- Does the step stand for an inline phrase? -/
def Step.isInline (s : Step) : Bool :=
  match s.part with
  | .phrase p => p.isInline
  | _ => false

namespace Production

/-- Each production once, where it first stands. -/
def distinct (ps : List Production) : List Production :=
  (ps.foldl (fun (seen, kept) p =>
    if seen.contains p then (seen, kept) else (seen.insert p, p :: kept))
    ((∅ : Std.HashSet Production), [])).2.reverse

/-- Put the alternative `q` in the place of the step `at_`. The role of the step passes to all that
replaces it, its rank and side to the last step that has none. -/
def replace (p : Production) (before : List Step) (at_ : Step) (after : List Step)
    (q : Production) : Production :=
  let inserted := q.steps.map fun s => { s with role := at_.role <|> s.role }
  let inserted := (Production.mapLast (fun last =>
    { last with
      rank := if last.rank == .unranked then at_.rank else last.rank
      side := last.side <|> at_.side }) ⟨inserted, 0⟩).steps
  ⟨before ++ inserted ++ after, heavier p.weight q.weight⟩

/-- Replace the first inline phrase by each of its alternatives. -/
def inlineFirst (p : Production) : List Production :=
  match p.steps.span (!·.isInline) with
  | (before, step :: after) =>
    match step.part with
    | .phrase q => q.rule.productions.map (p.replace before step after)
    | _ => [p]
  | (_, []) => [p]

/-- The alternatives without inline phrases; `depth` bounds how many a production may hold. -/
def inlined (depth : Nat) (ps : List Production) : List Production :=
  match depth with
  | 0 => ps
  | depth + 1 =>
    if ps.any (·.steps.any Step.isInline) then inlined depth (ps.flatMap inlineFirst) else ps

end Production

/-- The productions of a phrase or of a run. -/
def Part.productions : Part → List Production
  | .terminal _ => []
  | .phrase p => Production.distinct (Production.inlined 16 p.rule.productions)
  | .run body =>
    let again : Step := ⟨.run body, .unranked, none, none⟩
    Production.distinct (⟨[again, again], 0⟩ :: Production.inlined 16 body.productions)

end CustomElement.Grammar
