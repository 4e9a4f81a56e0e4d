-- SUMMARY: The commands of the program and what they are asked to do.
import CustomElement.Command.Help
import CustomElement.Config.Load
import CustomElement.Files.Sources

/-! ## Commands

The program builds elements from files, shows the element that a file would give, and writes a
configuration to begin with. -/

namespace CustomElement.Command

/-- What the program is asked to do. -/
inductive Request where
  | build (source : String) (output config : Option String)
  | check (file : String) (json : Bool) (config : Option String)
  | init
  /-- No command was given. -/
  | nothing
  deriving DecidableEq, Repr

/-- A request, and whether everything that is done shall be said. -/
structure Invocation where
  verbose : Bool
  request : Request
  deriving DecidableEq, Repr

/-! ## What the commands take -/

/-- The name of the program. -/
def programName : String := "fluxel"

/-- The option for a configuration file. -/
def configOption (help : String) : OptionSpec where
  names := ["--config"]
  value := "CONFIG"
  help

/-- Build elements. -/
def buildSpec : CommandSpec where
  name := programName ++ " build"
  options := [helpOption,
    { names := ["--output"], value := "OUTPUT"
      help := "Output directory (default: " ++ Files.buildDirectory ++ ")" },
    configOption ("Configuration file (default: ./" ++ Config.fileName ++ " or ~/.fluxel/" ++
      Config.fileName ++ ")")]
  operand := .value "source" "Source file, directory, or - for stdin"

/-- Show an element. -/
def checkSpec : CommandSpec where
  name := programName ++ " check"
  options := [helpOption, { names := ["--json"], help := "Print the result as JSON" },
    configOption "Configuration file"]
  operand := .value "filename" ""

/-- Write a configuration. -/
def initSpec : CommandSpec where
  name := programName ++ " init"
  options := [helpOption]

/-- The commands with what they are for. -/
def commands : List (String × String) :=
  [("build", "Elementize a file or directory"),
    ("check", "Show the element a file would produce"),
    ("init", "Write a default " ++ Config.fileName)]

/-- The program. -/
def programSpec : CommandSpec where
  name := programName
  description := "Fluxel CLI - turn default-exported components into custom elements"
  options := [helpOption,
    { names := ["--verbose"], help := "Enable verbose output (sent to stderr)" }]
  operand := .commands commands

/-! ## Reading the arguments -/

/-- The request for a command with its arguments, and what is left over of these. -/
def requestOf (command : String) (args : List String) : Except Stop (Request × List String) := do
  let operand (t : Taken) := (t.operand.bind List.head?).getD ""
  match command with
  | "build" =>
    let t ← matchArguments buildSpec args
    return (.build (operand t) (t.value? "output") (t.value? "config"), t.extras)
  | "check" =>
    let t ← matchArguments checkSpec args
    return (.check (operand t) (t.has "json") (t.value? "config"), t.extras)
  | "init" =>
    let t ← matchArguments initSpec args
    return (.init, t.extras)
  | _ =>
    programSpec.refuseAt "command" ("invalid choice: " ++ Text.quoted command ++
      " (choose from " ++ ", ".intercalate (commands.map fun c => Text.quoted c.1) ++ ")")

/-- What the arguments of the program ask for. -/
def readArguments (args : List String) : Except Stop Invocation := do
  let t ← matchArguments programSpec args
  let (request, extras) ← match t.operand with
    | some (command :: rest) => requestOf command rest
    | _ => pure (.nothing, [])
  match t.extras ++ extras with
  | [] => return ⟨t.has "verbose", request⟩
  | left => programSpec.refuse ("unrecognized arguments: " ++ " ".intercalate left)

end CustomElement.Command
