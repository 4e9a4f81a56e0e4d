-- SUMMARY: A sequence of steps on one source and one program.
import CustomElement.Element.Compile
import CustomElement.Element.Program

/-! ## Sessions

A session holds a source and a program. A step that fails leaves the program as it is; a source
that was handed over stays even if it cannot be read. -/

namespace CustomElement.Element

open Syntax Config Report

/-- A program in a session: modules and scripts. -/
inductive Program where
  | module (m : Module)
  | script (s : Script)

namespace Program

/-- The program as a node. -/
def toNode : Program → AnyNode
  | module m => .module m
  | script s => .script s

/-- The items of the program's body. -/
def body : Program → List ModuleItem
  | module m => m.body
  | script s => s.body.map .statement

/-- The plan for the program. -/
def plan (s : Settings) (p : Program) : Option Plan := planBody s p.body

/-- The program with its element. -/
def transform (s : Settings) : Program → Program
  | module m => module (Element.transform s m)
  | script p => script p

/-- The text of the program. -/
def print (source : Option String) : Program → String
  | module m => m.print source
  | script s => s.print source

/-- The program of a node, if it is one. -/
def ofNode? : AnyNode → Option Program
  | .module m => some (module m)
  | .script s => some (script s)
  | _ => none

end Program

/-- The state of a session. -/
structure Session where
  source : String := ""
  program : Option Program := none

/-- What to do next. -/
inductive SessionStep where
  /-- Read the source, a new one if it is given. -/
  | parse (source : Option String) (filename : String)
  | plan (settings : Except Diagnostic Settings)
  | transform (settings : Except Diagnostic Settings)
  /-- Serve the program as to a host with these settings. -/
  | serve (settings : Option String)
  /-- Print the program, with the source at hand or without; the text may become the source. -/
  | emit (withSource keep : Bool)
  | dump
  | unknown (name : String)

/-- What a step answers. -/
inductive SessionAnswer where
  | parsed (items : List ModuleItem) (trailingTrivia : Option String)
  | planned (p : Option Plan)
  | transformed (same : Bool) (kindNames : List String)
  | emitted (code : String)
  | dumped (p : Program)

/-- Why a step fails. -/
inductive SessionFault where
  | reported (d : Diagnostic)
  /-- There is no program to look into. -/
  | noBody
  /-- There is no program to print. -/
  | nothingToPrint
  /-- There is no program to serve. -/
  | nothingToServe
  /-- There is no program to dump. -/
  | nothingToDump
  | unknownStep (name : String)

namespace Session

/-- What is answered about a changed program. -/
def changed (same : Bool) (p : Program) : SessionAnswer :=
  .transformed same (p.body.map ModuleItem.kindName)

/-- Read the source at hand. -/
def read (s : Session) (filename : String) : Except SessionFault SessionAnswer × Session :=
  match readSource s.source filename with
  | .error d => (.error (.reported d), s)
  | .ok m => (.ok (.parsed m.body m.trailingTrivia), { s with program := some (.module m) })

/-- The plan for the program. -/
def plan (s : Session) (settings : Except Diagnostic Settings) :
    Except SessionFault SessionAnswer :=
  match settings, s.program with
  | .error d, _ => .error (.reported d)
  | .ok _, none => .error .noBody
  | .ok settings, some p => .ok (.planned (p.plan settings))

/-- The program with its element; `fault` is what is wrong if there is no program. -/
def elementize (s : Session) (fault : SessionFault) (settings : Except Diagnostic Settings) :
    Except SessionFault SessionAnswer × Session :=
  match settings, s.program with
  | .error d, _ => (.error (.reported d), s)
  | .ok _, none => (.error fault, s)
  | .ok settings, some p =>
    let new := p.transform settings
    (.ok (changed (p.plan settings).isNone new), { s with program := some new })

/-- Print the program. -/
def emit (s : Session) (withSource keep : Bool) : Except SessionFault SessionAnswer × Session :=
  match s.program with
  | none => (.error .nothingToPrint, s)
  | some p =>
    let code := p.print (if withSource then some s.source else none)
    (.ok (.emitted code), if keep then { s with source := code } else s)

/-- One step. -/
def step (s : Session) : SessionStep → Except SessionFault SessionAnswer × Session
  | .parse source filename => { s with source := source.getD s.source }.read filename
  | .plan settings => (s.plan settings, s)
  | .transform settings => s.elementize .noBody settings
  | .serve settings => s.elementize .nothingToServe (hostSettings settings)
  | .emit withSource keep => s.emit withSource keep
  | .dump => (((s.program.map SessionAnswer.dumped).map .ok).getD (.error .nothingToDump), s)
  | .unknown name => (.error (.unknownStep name), s)

/-- The answers of steps, one after the other. -/
def run (s : Session) : List SessionStep → List (Except SessionFault SessionAnswer)
  | [] => []
  | next :: rest =>
    let (answer, s) := s.step next
    answer :: s.run rest

end Session

end CustomElement.Element
