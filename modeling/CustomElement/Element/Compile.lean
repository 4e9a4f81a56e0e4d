-- SUMMARY: From the source of a module to its code with the element, with a log of what is done.
import CustomElement.Element.Plan
import CustomElement.Report.Diagnostic
import CustomElement.Report.Hint
import CustomElement.Syntax.Printer
import CustomElement.Syntax.Reader

/-! ## Compiling

A source is read, its plan is made and applied, and the module is printed with the source at hand:
what is not generated is copied. -/

namespace CustomElement.Element

open Syntax Config Report

/-! ## Reading -/

/-- The error alone, as it is known to the reader of modules. -/
def plainDiagnostic (e : SyntaxError) : Diagnostic where
  subject := .syntaxError
  message := e.fault.message
  line := some e.line
  column := some e.column

/-- What is suggested where no common mistake is found. -/
def generalSuggestion : String := "Check syntax around this line"

/-- The error with the file, the line in question and a hint. -/
def syntaxDiagnostic (source filename : String) (e : SyntaxError) : Diagnostic :=
  { plainDiagnostic e with
    filename := filename
    context := lineContext source (some e.line)
    suggestion := some (((hint? source).map Hint.message).getD generalSuggestion) }

/-- The module of a source from a file, by the trees of a reader, or what to report. -/
def readSourceBy (trees : TreeReader) (source filename : String) : Except Diagnostic Module :=
  (readModuleBy trees source).mapError (syntaxDiagnostic source filename)

/-- The module of a source from a file, or what to report. -/
def readSource (source filename : String) : Except Diagnostic Module :=
  readSourceBy grammar.read source filename

/-- The log of a source that was refused. -/
def failureLog (source : String) (d : Diagnostic) : List String :=
  ["Parse failed (" ++ ((hint? source).map Hint.name).getD "unknown" ++ "): " ++ d.message]

/-! ## Code -/

/-- The code of a module that was read from a source. -/
def compileModule (s : Settings) (source : String) (m : Module) : String :=
  match plan s m with
  | none => m.print source
  | some p => ((apply s p m).getD m).print source

/-- The log of a module. -/
def moduleLog (s : Settings) (m : Module) : List String :=
  ("Parsed " ++ toString m.body.length ++ " top-level items") ::
    match plan s m with
    | none => ["No eligible default export, module left unchanged"]
    | some p =>
      ["Elementizing " ++ p.component.name ++ " as <" ++ p.tagName ++ "> (" ++ p.className ++ ")"]

/-- The code of a source, by the trees of a reader, or what to report. -/
def compileBy (trees : TreeReader) (s : Settings) (source filename : String) :
    Except Diagnostic String :=
  (readSourceBy trees source filename).map (compileModule s source)

/-- The code of a source, or what to report. -/
def compile (s : Settings) (source filename : String) : Except Diagnostic String :=
  compileBy grammar.read s source filename

/-- What compiling gives, and what it says on the way. -/
structure Compilation where
  log : List String
  result : Except Diagnostic String

/-- Compile with a log, by the trees of a reader. -/
def compileLoggedBy (trees : TreeReader) (s : Settings) (source filename : String) : Compilation :=
  let start := "Compiling source: " ++ filename
  match readSourceBy trees source filename with
  | .error d => ⟨start :: failureLog source d, .error d⟩
  | .ok m => ⟨start :: moduleLog s m, .ok (compileModule s source m)⟩

/-- Compile with a log. -/
def compileLogged (s : Settings) (source filename : String) : Compilation :=
  compileLoggedBy grammar.read s source filename

/-- A log changes nothing about the code. -/
theorem compileLoggedBy_result (trees : TreeReader) (s : Settings) (source filename : String) :
    (compileLoggedBy trees s source filename).result = compileBy trees s source filename := by
  simp only [compileLoggedBy, compileBy]
  cases readSourceBy trees source filename <;> rfl

/-! ## Analysis -/

/-- The plan for a source, by the trees of a reader, or what to report. -/
def analyzeBy (trees : TreeReader) (s : Settings) (source filename : String) :
    Except Diagnostic (Option Plan) :=
  (readSourceBy trees source filename).map (plan s)

/-- The plan for a source, or what to report. -/
def analyze (s : Settings) (source filename : String) : Except Diagnostic (Option Plan) :=
  analyzeBy grammar.read s source filename

end CustomElement.Element
