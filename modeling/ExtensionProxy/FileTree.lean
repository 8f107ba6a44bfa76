import ExtensionProxy.OrderedMap
import ExtensionProxy.Path
import ExtensionProxy.Text.Decoding

/-!
# File trees

The files and folders that a run can see, as they are when it starts.  A file holds text, or bytes
that are no text, or it is a library that exports code under some symbols.  A path is followed part
by part, from the root if it is absolute and from the working folder if it is not; every part but
the last has to be a folder, and so has the last one if a slash or a `.` follows it.

What the system's loader finds under a name without a slash is none of the tree's business: it is
given with the tree, and nothing is assumed of it.
-/

set_option autoImplicit false

namespace ExtensionProxy

/-- What stands at a place of a tree. -/
inductive FileNode (ι : Type) where
  | folder
  /-- A file with text. -/
  | text (content : String)
  /-- A file whose bytes are no text. -/
  | binary (bytes : List UInt8)
  | library (exports : List (String × ι))
  deriving Repr

/-- The nodes of a tree by their places, which are the names on the way from the root. -/
structure FileTree (ι : Type) where
  /-- The nodes, in the order in which they were put there. -/
  nodes : OrderedMap (List String) (FileNode ι)
  /-- The place of the working folder. -/
  origin : List String := []
  /-- What the system's loader finds exported under a name without a slash: the empty name stands for
  the program itself, and any other is searched among the libraries of the system. -/
  system : String → Option (List (String × ι)) := fun _ => none

namespace FileTree

variable {ι : Type}

/-- The tree without files, in which one works at the root. -/
def empty : FileTree ι := { nodes := .empty }

instance : Inhabited (FileTree ι) := ⟨empty⟩

/-- Whether a folder stands at a place. -/
def isFolder (tree : FileTree ι) (place : List String) : Bool :=
  place.isEmpty || match tree.nodes.get? place with
    | some .folder => true
    | _ => false

/-- Follows parts from a place; above the root is the root. -/
def follow (tree : FileTree ι) : List String → List String → Option (List String)
  | [], place => some place
  | part :: rest, place =>
    if !tree.isFolder place then none
    else if part = "" ∨ part = "." then tree.follow rest place
    else if part = ".." then tree.follow rest place.dropLast
    else if tree.nodes.contains (place ++ [part]) then tree.follow rest (place ++ [part])
    else none

/-- The place at which a path starts. -/
def start (tree : FileTree ι) (path : String) : List String :=
  if Path.isAbsolute path then [] else tree.origin

/-- The place to which a path leads. -/
def resolve? (tree : FileTree ι) (path : String) : Option (List String) :=
  if path.isEmpty then none else tree.follow (Path.parts path) (tree.start path)

/-- What stands where a path leads. -/
def node? (tree : FileTree ι) (path : String) : Option (FileNode ι) :=
  match tree.resolve? path with
  | none => none
  | some [] => some .folder
  | some place => tree.nodes.get? place

/-- Whether a path leads to a file. -/
def isFile (tree : FileTree ι) (path : String) : Bool :=
  match tree.node? path with
  | some (.text _) => true
  | some (.binary _) => true
  | some (.library _) => true
  | _ => false

/-- The text of the file to which a path leads. -/
def text? (tree : FileTree ι) (path : String) : Option String :=
  match tree.node? path with
  | some (.text content) => some content
  | _ => none

/-- The text of the file to which a path leads, bytes that are no text read as well as they can
be. -/
def lenientText? (tree : FileTree ι) (path : String) : Option String :=
  match tree.node? path with
  | some (.text content) => some content
  | some (.binary bytes) => some (decodeBytes bytes)
  | _ => none

/-- What the library to which a path leads exports. -/
def exports? (tree : FileTree ι) (path : String) : Option (List (String × ι)) :=
  match tree.node? path with
  | some (.library exports) => some exports
  | _ => none

/-- The names in the folder to which a path leads. -/
def names? (tree : FileTree ι) (path : String) : Option (List String) :=
  match tree.resolve? path with
  | none => none
  | some place =>
    if tree.isFolder place then
      some (tree.nodes.keys.filterMap fun other =>
        if other.dropLast = place ∧ other ≠ [] then other.getLast? else none)
    else none

/-- The place next to a place by one part of a path. -/
def step (place : List String) (part : String) : List String :=
  if part = "" ∨ part = "." then place
  else if part = ".." then place.dropLast
  else place ++ [part]

/-- The place that a path names, whatever stands there. -/
def placeOf (tree : FileTree ι) (path : String) : List String :=
  (Path.parts path).foldl step (tree.start path)

/-- Puts folders at the places on the way from a place by the given names. -/
def addFolders (tree : FileTree ι) (place : List String) : List String → FileTree ι
  | [] => tree
  | name :: rest =>
    let next := place ++ [name]
    let nodes := if tree.nodes.contains next then tree.nodes else tree.nodes.insert next .folder
    addFolders { tree with nodes := nodes } next rest

/-- The tree without files, in which one works at a place. -/
def workingAt (origin : List String) : FileTree ι :=
  { (empty.addFolders [] origin) with origin := origin }

/-- Puts a node where a path leads, with the folders on the way; a folder that is there stays. -/
def add (tree : FileTree ι) (path : String) (node : FileNode ι) : FileTree ι :=
  let place := tree.placeOf path
  if tree.isFolder place then tree
  else
    let prepared := tree.addFolders [] place.dropLast
    { prepared with nodes := prepared.nodes.insert place node }

end FileTree

end ExtensionProxy
