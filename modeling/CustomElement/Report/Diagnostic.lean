-- SUMMARY: What is reported when a file or a configuration is refused.
import CustomElement.Text.Blank
import CustomElement.Text.Lines

/-! ## Diagnostics

A diagnostic says what is wrong, where, and how to mend it. Of the place as much is shown as is
known: a line or column that is zero counts as unknown, and so does a file without a name. -/

namespace CustomElement.Report

/-- What a diagnostic is about. -/
inductive Subject where
  | compilation
  | syntaxError
  | configuration
  deriving DecidableEq, Repr, Inhabited

/-- How a report on the subject begins. -/
def Subject.headline : Subject → String
  | compilation | syntaxError => "cannot compile"
  | configuration => "invalid configuration"

/-- What is wrong, where, and how to mend it. -/
structure Diagnostic where
  subject : Subject
  message : String
  filename : Option String := none
  line : Option Int := none
  column : Option Int := none
  /-- The line in question. -/
  context : Option String := none
  suggestion : Option String := none
  deriving DecidableEq, Repr, Inhabited

namespace Diagnostic

/-- A number that is known. -/
def known (n : Option Int) : Option Int := n.filter (· ≠ 0)

/-- A text that says something. -/
def given (s : Option String) : Option String := s.filter (· ≠ "")

/-- The file with line and column. -/
def location (d : Diagnostic) : String :=
  let file := (given d.filename).getD "<input>"
  match known d.line, known d.column with
  | none, _ => file
  | some line, none => file ++ ":" ++ toString line
  | some line, some column => file ++ ":" ++ toString line ++ ":" ++ toString column

/-- A line of a report, if there is something to say. -/
def remark (mark : String) (text : Option String) : String :=
  match given text with
  | some s => "   " ++ mark ++ " " ++ s ++ "\n"
  | none => ""

/-- The report. -/
def report (d : Diagnostic) : String :=
  "\n❌ Fluxel: " ++ d.subject.headline ++ " " ++ d.location ++ "\n   " ++ d.message ++ "\n" ++
    remark ">" d.context ++ remark "💡" d.suggestion

end Diagnostic

/-- The line of a source with a number, without white space around it. -/
def lineContext (source : String) (line : Option Int) : Option String := do
  let n ← line
  if source = "" || n < 1 then none
  else ((Text.linesOf source.toList)[n.toNat - 1]?).map fun l => String.ofList (Text.stripBlanks l)

end CustomElement.Report
