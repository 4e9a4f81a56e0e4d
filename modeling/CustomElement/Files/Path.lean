-- SUMMARY: Paths as texts: their components, and joining and splitting them.

/-! ## Paths

A path is a text in which slashes separate names. It is kept as it was given, for it is shown in
messages; only its components say where it leads. -/

namespace CustomElement.Files

/-- The components of a path, with the empty ones that double slashes and a slash at an end give. -/
def componentsOf : List Char → List (List Char)
  | [] => [[]]
  | c :: cs =>
    if c = '/' then [] :: componentsOf cs
    else match componentsOf cs with
      | [] => [[c]]
      | first :: rest => (c :: first) :: rest

/-- The components of a path. -/
def components (path : String) : List String := (componentsOf path.toList).map String.ofList

/-- Does a path begin at the root? -/
def isAbsolute (path : String) : Bool := path.toList.head? == some '/'

/-- A path below a directory. An absolute path stays as it is. -/
def join (directory path : String) : String :=
  if isAbsolute path then path
  else if directory = "" || directory.toList.getLast? == some '/' then directory ++ path
  else directory ++ "/" ++ path

/-- The last component of a path: what stands behind the last slash. -/
def baseName (path : String) : String :=
  String.ofList (path.toList.reverse.takeWhile (· ≠ '/')).reverse

/-- A path without the slashes at its end, unless it has nothing else. -/
def withoutSlashes (cs : List Char) : List Char :=
  if cs.all (· = '/') then cs else (cs.reverse.dropWhile (· = '/')).reverse

/-- What stands before the last component of a path. -/
def parent (path : String) : String :=
  String.ofList (withoutSlashes (path.toList.reverse.dropWhile (· ≠ '/')).reverse)

end CustomElement.Files
