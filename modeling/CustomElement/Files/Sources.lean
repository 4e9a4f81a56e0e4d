-- SUMMARY: The source files that a path stands for: one file, or all below a directory.
import CustomElement.Files.Disk

/-! ## Source files

Below a directory first its own files are taken in the order of their names, then its directories
in the order of theirs. Hidden directories and the one that a build writes into are left out. -/

namespace CustomElement.Files

/-- Where a build writes unless it is told otherwise. -/
def buildDirectory : String := "__fluxel_build__"

/-- How the names of source files end. -/
def sourceEndings : List String := [".js", ".jsx", ".ts", ".tsx"]

/-- Is it the name of a source file? -/
def isSourceName (name : String) : Bool :=
  sourceEndings.any fun ending => ending.toList.isSuffixOf name.toList

/-- Is a directory left out by its name? -/
def isSkipped (name : String) : Bool :=
  name == buildDirectory || name.toList.head? == some '.'

/-- A source file: its path, and its path from the directory that was searched. -/
structure SourceFile where
  path : String
  relative : String
  deriving DecidableEq, Repr

/-- Things in the order of their names. -/
def sortByName {α : Type} (xs : List (String × α)) : List (String × α) :=
  xs.mergeSort fun a b => decide (a.1 ≤ b.1)

/-- The source files directly in a directory, in the order of their names. -/
def sourcesIn (path relative : String) (entries : List (String × Entry)) : List SourceFile :=
  (sortByName (entries.filter fun e => e.2.isFile && isSourceName e.1)).map fun e =>
    ⟨join path e.1, join relative e.1⟩

mutual

/-- The source files below an entry. -/
def sourcesBelow (path relative : String) : Entry → List SourceFile
  | .file _ => []
  | .directory entries =>
    sourcesIn path relative entries ++
      (sortByName (sourcesOfDirectories path relative entries)).flatMap Prod.snd

/-- The source files below each directory among entries that is not left out. -/
def sourcesOfDirectories (path relative : String) :
    List (String × Entry) → List (String × List SourceFile)
  | [] => []
  | (name, e) :: rest =>
    let others := sourcesOfDirectories path relative rest
    if e.isFile || isSkipped name then others
    else (name, sourcesBelow (join path name) (join relative name) e) :: others

end

/-- The source files that a path stands for. -/
def Disk.sources (d : Disk) (path : String) : List SourceFile :=
  match d.entry path with
  | .ok (.file _) => [⟨path, baseName path⟩]
  | .ok e => sourcesBelow path "" e
  | .error _ => []

end CustomElement.Files
