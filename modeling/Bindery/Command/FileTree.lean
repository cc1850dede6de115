/-!
# A tree of files

A run reads and writes files below and around a working directory. A place is the list of names
that leads to it from the top. A file holds a text, or bytes that are no text. Files are written
into folders that are made on the way; a file where a folder is needed, or a folder where the file
should go, stops the writing. The folders that were made by then stay.
-/
namespace Bindery.Command

/-- The names that lead to a file or a folder from the top. -/
abbrev Place := List String

/-- Files with their contents, folders, and the folder in which paths start. -/
structure FileTree where
  home : Place
  folders : List Place
  files : List (Place × Option String)
  deriving DecidableEq, Repr

namespace FileTree

/-- Whether a place is a folder. The top always is. -/
def isFolder (tree : FileTree) (place : Place) : Bool :=
  place.isEmpty || place == tree.home || tree.folders.contains place

/-- The content of a file: a text, or `none` for bytes that are no text. -/
def file? (tree : FileTree) (place : Place) : Option (Option String) :=
  tree.files.lookup place

def setFile (tree : FileTree) (place : Place) (content : Option String) : FileTree :=
  { tree with files := (place, content) :: tree.files.filter (·.1 != place) }

/-- The steps of a path whose first step starts with the characters read, last one first. -/
def stepsAfter (read : List Char) : List Char → List String
  | [] => [String.ofList read.reverse]
  | c :: rest =>
    if c = '/' then String.ofList read.reverse :: stepsAfter [] rest
    else stepsAfter (c :: read) rest

/-- The steps of a path: what stands between its slashes. -/
def steps (path : String) : List String :=
  stepsAfter [] path.toList

/-- Where a path starts: at the top if it begins with a slash. -/
def start (tree : FileTree) (path : String) : Place :=
  if path.startsWith "/" then [] else tree.home

/-- Whether a text can be handed to the system as a path at all. -/
def isText (path : String) : Bool :=
  !path.toList.contains '\x00' && path.utf8ByteSize < 4096

def isShort (step : String) : Bool := step.utf8ByteSize < 256

def isPath (path : String) : Bool := isText path && (steps path).all isShort

/-- The place that steps lead to through existing folders. -/
def walk? (tree : FileTree) (place : Place) : List String → Option Place
  | [] => some place
  | step :: rest =>
    if !tree.isFolder place then none
    else if step = "" ∨ step = "." then tree.walk? place rest
    else if step = ".." then tree.walk? place.dropLast rest
    else tree.walk? (place ++ [step]) rest

/-- The text of the file that a path leads to. -/
def read? (tree : FileTree) (path : String) : Option String :=
  if isPath path then ((tree.walk? (tree.start path) (steps path)).bind tree.file?).join else none

/-- Makes the folders that steps lead through, and gives the last. A file in the way or a name
that no folder can have ends it. -/
def enter (tree : FileTree) (place : Place) : List String → FileTree × Option Place
  | [] => (tree, some place)
  | step :: rest =>
    if step = "" ∨ step = "." then tree.enter place rest
    else if step = ".." then tree.enter place.dropLast rest
    else
      let next := place ++ [step]
      if (tree.file? next).isSome || !isShort step then (tree, none)
      else if tree.isFolder next then tree.enter next rest
      else { tree with folders := next :: tree.folders }.enter next rest

/-- Writes a file at a path, making the folders on the way. -/
def write? (tree : FileTree) (path : String) (content : Option String) : Option FileTree :=
  if !isPath path then none
  else do
    let name ← (steps path).getLast?
    let made := tree.enter (tree.start path) (steps path).dropLast
    let place := (← made.2) ++ [name]
    if made.1.isFolder place then none else some (made.1.setFile place content)

/-- What is left when a file cannot be written: the tree with the folders that were made for it. -/
def afterFailure (tree : FileTree) (path : String) : FileTree :=
  let folders := (steps path).dropLast
  -- a path that the system does not take is refused before any folder is made
  if isText ("/".intercalate folders) then (tree.enter (tree.start path) folders).1 else tree

/-- The path of a place below the working directory. -/
def relative? (tree : FileTree) (place : Place) : Option String :=
  if tree.home.isPrefixOf place && tree.home.length < place.length then
    some ("/".intercalate (place.drop tree.home.length))
  else none

/-- The files below the working directory that are new or differ from an earlier tree. -/
def changes (tree earlier : FileTree) : List (String × Option String) :=
  tree.files.filterMap fun (place, content) =>
    if earlier.file? place = some content then none
    else (tree.relative? place).map (·, content)

end FileTree

/-- A path below a folder, unless it starts at the top. -/
def joinPath (folder path : String) : String :=
  if path.startsWith "/" then path
  else if folder.endsWith "/" then folder ++ path
  else folder ++ "/" ++ path

end Bindery.Command
