-- SUMMARY: What a command leaves behind: files, output, notes and the way it ends.
import CustomElement.Command.Help
import CustomElement.Files.Disk
import CustomElement.Report.Diagnostic

/-! ## Outcomes

A command changes a disk, prints its result, takes notes of what it does and ends. What was changed,
printed and noted before a command ends early stays. -/

namespace CustomElement.Command

open Files

/-! ## Notes -/

/-- Something said beside the result. -/
inductive Note where
  | info (message : String)
  /-- A step on the way. It is taken down only if everything that is done shall be said. -/
  | detail (message : String)
  | error (message : String)
  /-- Arguments that a command cannot take. -/
  | usage (c : CommandSpec) (message : String)
  deriving DecidableEq, Repr

/-- The text of a note. Information and details are set off by colours. -/
def Note.print : Note → String
  | info message => "\x1b[92m\x1b[1mINFO:\x1b[0m " ++ message ++ "\n"
  | detail message => "\x1b[94mDEBUG:\x1b[0m " ++ message ++ "\n"
  | error message => "Error: " ++ message ++ "\n"
  | usage c message => c.usage ++ c.name ++ ": error: " ++ message ++ "\n"

/-- The text of notes. -/
def printNotes (notes : List Note) : String := String.join (notes.map Note.print)

/-- The steps of a log, if they shall be said. -/
def details (verbose : Bool) (log : List String) : List Note :=
  if verbose then log.map .detail else []

/-! ## Endings -/

/-- How a command ends. -/
inductive Ending where
  | exit (status : Nat)
  /-- A file or directory cannot be written. -/
  | fault (f : PathFault)
  deriving DecidableEq, Repr

/-- What a command leaves behind. -/
structure Outcome where
  disk : Disk
  output : String := ""
  notes : List Note := []
  ending : Ending := .exit 0

namespace Outcome

/-- The outcome with notes before its own. -/
def after (notes : List Note) (o : Outcome) : Outcome := { o with notes := notes ++ o.notes }

/-- A command that gives up. -/
def failed (d : Disk) (message : String) : Outcome where
  disk := d
  notes := [.error message]
  ending := .exit 1

/-- A command that gives up because of a report under a title. -/
def reported (d : Disk) (title : String) (r : Report.Diagnostic) : Outcome :=
  failed d (title ++ " Failed:\n" ++ r.report)

/-- A command that is not run, for its arguments do not fit or help was wanted. -/
def stopped (d : Disk) : Stop → Outcome
  | .help c => { disk := d, output := c.help }
  | .refused c message => { disk := d, notes := [.usage c message], ending := .exit 2 }

end Outcome

end CustomElement.Command
