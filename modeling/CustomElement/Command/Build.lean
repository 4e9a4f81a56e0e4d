-- SUMMARY: Building elements from a text or from files into an output directory.
import CustomElement.Command.Outcome
import CustomElement.Config.Load
import CustomElement.Element.Compile
import CustomElement.Element.SourceText
import CustomElement.Files.Sources

/-! ## Building

The sources are listed once. Then one after the other is read, compiled and written below the output
directory under its path from the directory that was searched. The first source that is refused or
cannot be written ends the build; what was written before stays. -/

namespace CustomElement.Command

open Files Config Element Syntax

/-! ## One source -/

/-- Compile a source file as it is on a disk, by the trees of a reader. -/
def compileFileBy (trees : TreeReader) (s : Settings) (d : Disk) (path : String) : Compilation :=
  match readSourceText d path with
  | .error r => ⟨[], .error r⟩
  | .ok source => compileLoggedBy trees s source path

/-- Where the code of a source goes. -/
def targetOf (output : String) (f : SourceFile) : String := join output f.relative

/-- The directory that a target is in. -/
def directoryOf (target : String) : String := if parent target = "" then "." else parent target

/-- Write code to a file; the directories above it arise as needed. -/
def writeTarget (d : Disk) (target code : String) : Disk × Option PathFault :=
  match d.makeDirectories (directoryOf target) with
  | (d, some f) => (d, some f)
  | (d, none) =>
    match d.writeText target code with
    | .ok d => (d, none)
    | .error f => (d, some ⟨f, target⟩)

/-! ## Many sources -/

/-- Go on with a disk that was written, unless there was a fault. -/
def Outcome.unlessFault : Disk × Option PathFault → (Disk → Outcome) → Outcome
  | (d, some fault), _ => { disk := d, ending := .fault fault }
  | (d, none), next => next d

/-- Build sources one after the other. -/
def buildFilesBy (trees : TreeReader) (s : Settings) (verbose : Bool) (output : String) :
    Disk → List SourceFile → Outcome
  | d, [] => { disk := d }
  | d, f :: rest =>
    let done := compileFileBy trees s d f.path
    Outcome.after (details verbose done.log) <|
      match done.result with
      | .error r => .reported d ("Compilation of " ++ f.path) r
      | .ok code =>
        let target := targetOf output f
        Outcome.unlessFault (writeTarget d target code) fun d =>
          (buildFilesBy trees s verbose output d rest).after [.info (f.path ++ " -> " ++ target)]

/-- The outcome with a last note, if all went well. -/
def Outcome.concluded (o : Outcome) (message : String) : Outcome :=
  match o.ending with
  | .exit 0 => { o with notes := o.notes ++ [.info message] }
  | _ => o

/-- The directory to write into. An empty name stands for the usual one. -/
def outputDirectory (output : Option String) : String :=
  match output with
  | none | some "" => buildDirectory
  | some directory => directory

/-- Build the sources that a path stands for. -/
def buildSourcesBy (trees : TreeReader) (s : Settings) (verbose : Bool) (d : Disk)
    (source : String) (output : Option String) : Outcome :=
  if !d.pathExists source then .failed d ("File '" ++ source ++ "' not found.")
  else
    match d.sources source with
    | [] => .failed d ("No " ++ "/".intercalate sourceEndings ++ " files found in '" ++ source ++
        "'.")
    | sources =>
      let directory := outputDirectory output
      (buildFilesBy trees s verbose directory d sources).concluded
        ("Built " ++ toString sources.length ++ " file(s) into " ++ directory ++ "/")

/-! ## A text -/

/-- The name of the text that is handed over instead of a file. -/
def inputName : String := "<stdin>"

/-- Build the element of a text that is handed over and print the code. -/
def buildInputBy (trees : TreeReader) (s : Settings) (verbose : Bool) (d : Disk)
    (input : Text.Bytes) : Outcome :=
  match Disk.textOfBytes input with
  | .error _ => .failed d "Standard input is not valid UTF-8."
  | .ok source =>
    let done := compileLoggedBy trees s source inputName
    Outcome.after (details verbose done.log) <|
      match done.result with
      | .error r => .reported d "Compilation" r
      | .ok code => { disk := d, output := code }

/-! ## The command -/

/-- The source that stands for a text that is handed over. -/
def inputSource : String := "-"

/-- Build a source with the settings from a file, by the trees of a reader. -/
def buildBy (trees : TreeReader) (verbose : Bool) (d : Disk) (home : String) (input : Text.Bytes)
    (source : String) (output config : Option String) : Outcome :=
  match loadSettings d home config with
  | .error r => .reported d "Configuration" r
  | .ok s =>
    if source = inputSource then buildInputBy trees s verbose d input
    else buildSourcesBy trees s verbose d source output

end CustomElement.Command
