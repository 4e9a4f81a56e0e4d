-- SUMMARY: Programs that a host hands over: modules get their element, scripts pass unchanged.
import CustomElement.Config.Reader
import CustomElement.Element.Plan

/-! ## Programs from a host

A host hands over a program with the settings as text. The settings are read before the program is
looked at, so that bad settings are reported even for a program that is refused. -/

namespace CustomElement.Element

open Syntax Config

/-- Why a host gets no program back. -/
inductive ProgramFault where
  | settings (d : Report.Diagnostic)
  /-- The node is neither a module nor a script. -/
  | noProgram (kindName : String)
  deriving DecidableEq, Repr

/-- The fault of a node in words. -/
def notAProgram (kindName : String) : String := "Expected a Module or Script, got " ++ kindName

/-- Where the settings of a host come from. -/
def hostOrigin : String := "<plugin config>"

/-- The settings of a host: those of its text, or the defaults. -/
def hostSettings (text : Option String) : Except Report.Diagnostic Settings :=
  match text with
  | none => .ok {}
  | some text => readSettings text hostOrigin

/-- A program with its element, and whether it is unchanged. -/
def transformProgram (s : Settings) : AnyNode → Except ProgramFault (AnyNode × Bool)
  | .module m => .ok (.module (transform s m), (plan s m).isNone)
  | .script p => .ok (.script p, true)
  | n => .error (.noProgram n.kindName)

/-- What a host gets back for a program. -/
def serve (settings : Option String) (n : AnyNode) : Except ProgramFault (AnyNode × Bool) :=
  match hostSettings settings with
  | .error d => .error (.settings d)
  | .ok s => transformProgram s n

end CustomElement.Element
