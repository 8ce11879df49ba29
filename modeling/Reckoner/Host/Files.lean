import Reckoner.Text.Line

/-!
# Files

The files that the program may read and write.  A place in the tree is the list of the names that
lead to it from the root.  A path is walked name by name, and every name but the last one has to
lead to a folder.
-/

namespace Reckoner

/-- The names that lead from the root to a place. -/
abbrev Place := List String

/-- What a file holds. -/
inductive FileContent where
  | text (s : String)
  /-- Bytes that are no text.  Whoever reads them line by line gets some lines before the fault is
  noticed; which lines these are depends on how much is read at a time. -/
  | garbled (front : String)
  /-- The file may be neither read nor written. -/
  | sealed
  deriving DecidableEq, Repr

/-- What stands at a place. -/
inductive FileNode where
  | file (content : FileContent)
  | folder
  deriving DecidableEq, Repr

/-- Files and folders by their places.  What lies on the way to one of them is a folder too. -/
structure FileTree where
  /-- The folder from which relative paths start. -/
  start : Place
  entries : List (Place × FileNode)
  deriving DecidableEq, Repr

namespace FileTree

/-- The names of a path. -/
def names (path : String) : List String :=
  (Text.pieces (· == '/') path.toList).map String.ofList

/-- What stands at a place. -/
def node? (tree : FileTree) (place : Place) : Option FileNode :=
  match tree.entries.lookup place with
  | some node => some node
  | none =>
    if place.isEmpty || tree.entries.any (fun (p, _) => place.isPrefixOf p) then some .folder
    else none

/-- A place is a folder. -/
def isFolder (tree : FileTree) (place : Place) : Bool := tree.node? place == some .folder

/-- A step along a path: an empty name and a point stay, two points go back. -/
def stepTo (place : Place) (name : String) : Place :=
  if name = "" || name = "." then place
  else if name = ".." then place.dropLast
  else place ++ [name]

/-- The place that names lead to; none if one of them leads out of something that is no folder. -/
def walk (tree : FileTree) (place : Place) : List String → Option Place
  | [] => some place
  | name :: rest =>
    if tree.isFolder place then walk tree (stepTo place name) rest else none

/-- Where a path begins. -/
def origin (tree : FileTree) (path : String) : Place :=
  if path.startsWith "/" then [] else tree.start

/-- The place that a path leads to, whether or not something stands there. -/
def locate? (tree : FileTree) (path : String) : Option Place :=
  if path.isEmpty then none else tree.walk (tree.origin path) (names path)

/-- What a path leads to. -/
def at? (tree : FileTree) (path : String) : Option FileNode :=
  (tree.locate? path).bind tree.node?

/-- The path leads to a file or a folder. -/
def contains (tree : FileTree) (path : String) : Bool := (tree.at? path).isSome

/-- What is read of a file, in whose text every line end is written as a line feed; none if the path
does not lead to a file. -/
def read? (tree : FileTree) (path : String) : Option FileContent :=
  match tree.at? path with
  | some (.file (.text s)) => some (.text (String.ofList (Text.unifyLineEnds s.toList)))
  | some (.file content) => some content
  | _ => none

/-- The path leads to a file. -/
def isFile (tree : FileTree) (path : String) : Bool :=
  match tree.at? path with
  | some (.file _) => true
  | _ => false

/-- Puts something at a place, instead of what stands there. -/
def put (tree : FileTree) (place : Place) (node : FileNode) : FileTree :=
  { tree with entries := (place, node) :: tree.entries.filter fun (p, _) => p != place }

/-- Makes folders of all that names lead to; none if something on the way is a file. -/
def makeFoldersFrom (tree : FileTree) (place : Place) : List String → Option FileTree
  | [] =>
    match tree.node? place with
    | some .folder => some tree
    | some (.file _) => none
    | none => some (tree.put place .folder)
  | name :: rest =>
    match tree.node? place with
    | some .folder => makeFoldersFrom tree (stepTo place name) rest
    | some (.file _) => none
    | none => makeFoldersFrom (tree.put place .folder) (stepTo place name) rest

/-- Makes a folder and all that it lies in, as far as they are missing. -/
def makeFolders (tree : FileTree) (path : String) : Option FileTree :=
  if path.isEmpty then none else tree.makeFoldersFrom (tree.origin path) (names path)

/-- Writes a file into a folder that is there; none if that fails. -/
def write (tree : FileTree) (path text : String) : Option FileTree :=
  match tree.locate? path with
  | none => none
  | some place =>
    match tree.node? place with
    | some .folder | some (.file .sealed) => none
    | _ => some (tree.put place (.file (.text text)))

end FileTree

end Reckoner
