-- SUMMARY: A tree of files and directories, and reading and changing it by paths.
import CustomElement.Files.Path
import CustomElement.Text.Lines
import CustomElement.Text.Quoted
import CustomElement.Text.Utf8

/-! ## Files

A disk is a tree of directories with files at the ends, and a place in it from which relative paths
lead. A path is followed name by name: all names but the last must lead to directories, and a
fault says why a path does not lead to what is wanted. -/

namespace CustomElement.Files

open Text (Bytes)

/-- A file or a directory. -/
inductive Entry where
  | file (content : Bytes)
  | directory (entries : List (String × Entry))
  deriving Inhabited

/-- The names that lead to a place from the root. -/
abbrev Location := List String

/-! ## Faults -/

/-- Why a path does not lead to what is wanted. -/
inductive Fault where
  | notFound
  | alreadyThere
  | noDirectory
  | isDirectory
  | nameTooLong
  /-- The path holds the character zero. -/
  | zeroInPath
  deriving DecidableEq, Repr

namespace Fault

/-- The number of the fault. -/
def number : Fault → Nat
  | notFound => 2
  | alreadyThere => 17
  | noDirectory => 20
  | isDirectory => 21
  | nameTooLong => 36
  | zeroInPath => 22

/-- The fault in words. -/
def message : Fault → String
  | notFound => "No such file or directory"
  | alreadyThere => "File exists"
  | noDirectory => "Not a directory"
  | isDirectory => "Is a directory"
  | nameTooLong => "File name too long"
  | zeroInPath => "embedded null byte"

end Fault

/-- A fault with the path that it is about. -/
structure PathFault where
  fault : Fault
  path : String
  deriving DecidableEq, Repr

/-- The fault with its number and path. -/
def PathFault.message (f : PathFault) : String :=
  match f.fault with
  | .zeroInPath => f.fault.message
  | _ => "[Errno " ++ toString f.fault.number ++ "] " ++ f.fault.message ++ ": " ++
      Text.quoted f.path

/-! ## Entries -/

namespace Entry

/-- The entry of a name. -/
def named? (entries : List (String × Entry)) (name : String) : Option Entry :=
  (entries.find? fun e => e.1 == name).map Prod.snd

/-- The entries with another one under a name. -/
def putNamed (name : String) (new : Entry) : List (String × Entry) → List (String × Entry)
  | [] => [(name, new)]
  | (n, e) :: rest => if n == name then (n, new) :: rest else (n, e) :: putNamed name new rest

/-- The entry at a place below an entry. -/
def at? : Entry → Location → Option Entry
  | e, [] => some e
  | file _, _ :: _ => none
  | directory entries, name :: rest => (named? entries name).bind fun e => e.at? rest

/-- The entry with another one at a place below it. Directories on the way arise as needed; below a
file nothing changes. -/
def put : Entry → Location → Entry → Entry
  | _, [], new => new
  | file content, _ :: _, _ => file content
  | directory entries, name :: rest, new =>
    directory (putNamed name (((named? entries name).getD (directory [])).put rest new) entries)

/-- Is it a file? -/
def isFile : Entry → Bool
  | file _ => true
  | directory _ => false

mutual

/-- All files below an entry, with their names from there. -/
def files (above : Location) : Entry → List (Location × Bytes)
  | file content => [(above, content)]
  | directory entries => filesOf above entries

/-- All files below entries of a directory. -/
def filesOf (above : Location) : List (String × Entry) → List (Location × Bytes)
  | [] => []
  | (name, e) :: rest => files (above ++ [name]) e ++ filesOf above rest

end

end Entry

/-! ## Disks -/

/-- A tree and the place in it from which relative paths lead. -/
structure Disk where
  root : Entry
  here : Location
  deriving Inhabited

namespace Disk

/-- How many bytes a name may have. -/
def maxName : Nat := 255

/-- Follow components from a place. -/
def follow (d : Disk) : Location → List String → Except Fault Location
  | place, [] => .ok place
  | place, name :: rest =>
    match d.root.at? place with
    | none => .error .notFound
    | some (.file _) => .error .noDirectory
    | some (.directory entries) =>
      if name = "" || name = "." then d.follow place rest
      else if name = ".." then d.follow place.dropLast rest
      else if maxName < name.utf8ByteSize then .error .nameTooLong
      else if (Entry.named? entries name).isSome then d.follow (place ++ [name]) rest
      else .error .notFound

/-- The place where a path begins. -/
def startOf (d : Disk) (path : String) : Location := if isAbsolute path then [] else d.here

/-- The place that a path leads to. -/
def resolve (d : Disk) (path : String) : Except Fault Location :=
  if path.toList.contains '\x00' then .error .zeroInPath
  else if path = "" then .error .notFound
  else d.follow (d.startOf path) (components path)

/-- What a path leads to. -/
def entry (d : Disk) (path : String) : Except Fault Entry :=
  (d.resolve path).bind fun place =>
    match d.root.at? place with
    | some e => .ok e
    | none => .error .notFound

/-- Does a path lead anywhere? -/
def pathExists (d : Disk) (path : String) : Bool := (d.entry path).isOk

/-- Does a path lead to a file? -/
def isFile (d : Disk) (path : String) : Bool :=
  match d.entry path with
  | .ok (.file _) => true
  | _ => false

/-- Does a path lead to a directory? -/
def isDirectory (d : Disk) (path : String) : Bool :=
  match d.entry path with
  | .ok (.directory _) => true
  | _ => false

/-! ## Reading -/

/-- The content of a file. -/
def readFile (d : Disk) (path : String) : Except Fault Bytes :=
  match d.entry path with
  | .ok (.file content) => .ok content
  | .ok (.directory _) => .error .isDirectory
  | .error f => .error f

/-! ## Changing -/

/-- The place that a path would lead to if its last name was there. -/
def newPlace (d : Disk) (path : String) : Except Fault Location :=
  let names := components path
  (d.follow (d.startOf path) names.dropLast).bind fun place =>
    match d.root.at? place with
    | some (.directory _) => .ok (place ++ [names.getLastD ""])
    | some (.file _) => .error .noDirectory
    | none => .error .notFound

/-- The disk with an entry at a place. -/
def put (d : Disk) (place : Location) (e : Entry) : Disk := { d with root := d.root.put place e }

/-- Write a file, a new one or over an old one. -/
def writeFile (d : Disk) (path : String) (content : Bytes) : Except Fault Disk :=
  match d.resolve path with
  | .ok place =>
    match d.root.at? place with
    | some (.directory _) => .error .isDirectory
    | _ => .ok (d.put place (.file content))
  | .error .notFound => (d.newPlace path).map fun place => d.put place (.file content)
  | .error f => .error f

/-- Make one directory. -/
def makeDirectory (d : Disk) (path : String) : Except Fault Disk :=
  match d.resolve path with
  | .ok _ => .error .alreadyThere
  | .error .notFound => (d.newPlace path).map fun place => d.put place (.directory [])
  | .error f => .error f

/-- Make one directory, unless it is there. -/
def ensureDirectory (d : Disk) (path : String) : Disk × Option PathFault :=
  match d.makeDirectory path with
  | .ok d => (d, none)
  | .error f => if d.isDirectory path then (d, none) else (d, some ⟨f, path⟩)

/-- The directory that holds what a path leads to, and the name of that. A slash at the end does
not count. -/
def splitPath (path : String) : String × String :=
  if baseName path = "" then (parent (parent path), baseName (parent path))
  else (parent path, baseName path)

/-- Make a directory and those above it, unless they are there. Those that were made before a fault
stay. `fuel` bounds their number. -/
def makeDirectoriesFuel : Nat → Disk → String → Disk × Option PathFault
  | 0, d, path => d.ensureDirectory path
  | fuel + 1, d, path =>
    let (head, tail) := splitPath path
    if head = "" || tail = "" || d.pathExists head then d.ensureDirectory path
    else
      match makeDirectoriesFuel fuel d head with
      | (d, none) | (d, some ⟨.alreadyThere, _⟩) =>
        if tail = "." then (d, none) else d.ensureDirectory path
      | failed => failed

/-- Make a directory and those above it, unless they are there. -/
def makeDirectories (d : Disk) (path : String) : Disk × Option PathFault :=
  makeDirectoriesFuel path.length d path

/-! ## Texts -/

/-- Why a file cannot be read as text. -/
inductive TextFault where
  | unreadable (f : PathFault)
  | noUtf8 (f : Text.Utf8Fault)
  deriving DecidableEq, Repr

/-- The fault in words. -/
def TextFault.message : TextFault → String
  | unreadable f => f.message
  | noUtf8 f => f.message

/-- The text of bytes, with a line feed for every line end. -/
def textOfBytes (content : Bytes) : Except Text.Utf8Fault String :=
  (Text.decodeUtf8 content).map fun cs => String.ofList (Text.unifyLineEnds cs)

/-- The text of a file. -/
def readText (d : Disk) (path : String) : Except TextFault String :=
  match d.readFile path with
  | .error f => .error (.unreadable ⟨f, path⟩)
  | .ok content => (textOfBytes content).mapError .noUtf8

/-- Write a text. -/
def writeText (d : Disk) (path text : String) : Except Fault Disk :=
  d.writeFile path (Text.encodeUtf8 text.toList)

/-! ## Changes -/

/-- The files below the place of a disk, by their paths from there. -/
def files (d : Disk) : List (String × Bytes) :=
  match d.root.at? d.here with
  | some e => (e.files []).map fun f => ("/".intercalate f.1, f.2)
  | none => []

/-- The files that are new on a disk or have another content than before. -/
def changedSince (d before : Disk) : List (String × Bytes) :=
  let old := before.files
  d.files.filter fun f => !old.contains f

end Disk

end CustomElement.Files
