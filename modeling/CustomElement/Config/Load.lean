-- SUMMARY: Settings from a file: one that is named, or the first of the usual ones.
import CustomElement.Config.Reader
import CustomElement.Files.Disk

/-! ## Settings from files

A file that is named must be there. Otherwise the file in the working directory is taken, then the
user's own, and if neither is there the defaults hold. -/

namespace CustomElement.Config

open Files Report

/-- The name of the file. -/
def fileName : String := "fluxel.json"

/-- The user's own file, below the user's directory. -/
def userFile (home : String) : String :=
  String.ofList (home.toList.reverse.dropWhile (· = '/')).reverse ++ "/.fluxel/" ++ fileName

/-- A file that cannot be read. -/
def unreadable (path reason : String) : Diagnostic where
  subject := .configuration
  message := "Cannot read " ++ path ++ ": " ++ reason
  filename := path

/-- A file that was named and is not there. -/
def notFound (path : String) : Diagnostic where
  subject := .configuration
  message := "Configuration file not found: " ++ path
  filename := path
  suggestion := "Check the --config path"

/-- The settings of a file. -/
def settingsOfFile (d : Disk) (path : String) : Except Diagnostic Settings :=
  match d.readText path with
  | .error f => .error (unreadable path f.message)
  | .ok text => readSettings text path

/-- The settings of the first file that is there. -/
def settingsOfFirst (d : Disk) : List String → Except Diagnostic Settings
  | [] => .ok {}
  | path :: rest => if d.pathExists path then settingsOfFile d path else settingsOfFirst d rest

/-- The settings for a command. -/
def loadSettings (d : Disk) (home : String) (path : Option String) : Except Diagnostic Settings :=
  match path with
  | some path => if d.pathExists path then settingsOfFile d path else .error (notFound path)
  | none => settingsOfFirst d [fileName, userFile home]

end CustomElement.Config
