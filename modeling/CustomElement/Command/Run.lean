-- SUMMARY: Running the program on its arguments.
import CustomElement.Command.Build
import CustomElement.Command.Interface
import CustomElement.Interchange.Dump

/-! ## Running

The arguments choose a command. It works on a disk that it is given, so that all that it does is
seen in its outcome. -/

namespace CustomElement.Command

open Files Config Element Syntax

/-! ## Showing an element -/

/-- The element that a file would give, as a JSON document. -/
def planDocument (file : String) (p : Option Plan) : String :=
  (Json.Value.object
    [("filename", .string file), ("element", Interchange.dumpPlan p)]).indented ++ "\n"

/-- The element that a file would give, on one line. -/
def planLine (file : String) : Option Plan → String
  | none => file ++ ": no eligible default export, left unchanged\n"
  | some p =>
    file ++ ": " ++ p.component.name ++ " -> <" ++ p.tagName ++ "> (" ++ p.className ++ ")\n"

/-- Show the element that a file would give, by the trees of a reader. -/
def checkBy (trees : TreeReader) (verbose : Bool) (d : Disk) (home file : String) (json : Bool)
    (config : Option String) : Outcome :=
  if !d.isFile file then .failed d ("File '" ++ file ++ "' not found.")
  else
    match loadSettings d home config with
    | .error r => .reported d "Check" r
    | .ok s =>
      match readSourceText d file with
      | .error r => .reported d "Check" r
      | .ok source =>
        match analyzeBy trees s source file with
        | .error r => (Outcome.reported d "Check" r).after (details verbose (failureLog source r))
        | .ok p => { disk := d, output := if json then planDocument file p else planLine file p }

/-! ## Writing a configuration -/

/-- Write a configuration with the defaults, unless there is one. -/
def init (d : Disk) : Outcome :=
  if d.pathExists fileName then
    { disk := d, notes := [.info (fileName ++ " already exists, leaving it untouched.")] }
  else
    match d.writeText fileName ({} : Settings).document with
    | .error f => { disk := d, ending := .fault ⟨f, fileName⟩ }
    | .ok d => { disk := d, notes := [.info ("Wrote default configuration to " ++ fileName)] }

/-! ## The program -/

/-- Do what is asked for, by the trees of a reader. -/
def performBy (trees : TreeReader) (d : Disk) (home : String) (input : Text.Bytes)
    (i : Invocation) : Outcome :=
  match i.request with
  | .build source output config => buildBy trees i.verbose d home input source output config
  | .check file json config => checkBy trees i.verbose d home file json config
  | .init => init d
  | .nothing => { disk := d, output := programSpec.help }

/-- Run the program on a disk, by the trees of a reader: with the user's directory, the text that is
handed over and the arguments. -/
def runBy (trees : TreeReader) (d : Disk) (home : String) (input : Text.Bytes)
    (args : List String) : Outcome :=
  match readArguments args with
  | .error stop => .stopped d stop
  | .ok i => performBy trees d home input i

/-- Run the program on a disk. -/
def run (d : Disk) (home : String) (input : Text.Bytes) (args : List String) : Outcome :=
  runBy grammar.read d home input args

end CustomElement.Command
