import BuildConfig.Files.Error
import BuildConfig.Files.Path

namespace BuildConfig

-- The names that lead from the root to a file or directory.
abbrev Location := List String

-- A full device opens like a file but takes nothing.
inductive FileNode
  | directory
  | file (content : ByteArray)
  | fullDevice

-- The newest binding of a location is the one that counts.
structure FileTree where
  bindings : List (Location × FileNode)
  workingDirectory : Location

namespace FileTree

-- What stands at a location. The root is always a directory.
def node? (tree : FileTree) (location : Location) : Option FileNode :=
  if location = [] then some .directory else tree.bindings.lookup location

def put (tree : FileTree) (location : Location) (node : FileNode) : FileTree :=
  { tree with bindings := (location, node) :: tree.bindings }

theorem node?_root {tree : FileTree} : tree.node? [] = some .directory :=
  rfl

theorem node?_put_self {tree : FileTree} {location : Location} {node : FileNode}
    (h : location ≠ []) : (tree.put location node).node? location = some node := by
  simp [node?, put, h]

theorem node?_put_of_ne {tree : FileTree} {l₁ l₂ : Location} {node : FileNode} (h : l₂ ≠ l₁) :
    (tree.put l₁ node).node? l₂ = tree.node? l₂ := by
  have h : (l₂ == l₁) = false := by simpa using h
  simp [node?, put, List.lookup_cons, h]

-- The content of the regular file at a location.
def content? (tree : FileTree) (location : Location) : Option ByteArray :=
  match tree.node? location with
  | some (.file content) => some content
  | _                    => none

-- The locations that ever got a binding, each once.
def locations (tree : FileTree) : List Location :=
  (tree.bindings.map (·.fst)).eraseDups

-- The locations of the regular files that are new or have another content than before.
def changes (tree after : FileTree) : List Location :=
  after.locations.filter fun l =>
    (after.content? l).isSome ∧ (after.content? l).map (·.data) ≠ (tree.content? l).map (·.data)

def longestName : Nat := 255

def longestPath : Nat := 4095

-- A path text has to be checked before it can be followed.
def checkPath (path : String) : Except FileError Unit :=
  if '\x00' ∈ path.toList then .error .zeroInPath
  else if path = "" then .error .notFound
  else if path.utf8ByteSize > longestPath then .error .nameTooLong
  else .ok ()

-- Where a path starts.
def origin (tree : FileTree) (path : String) : Location :=
  if Path.isAbsolute path then [] else tree.workingDirectory

def requireDirectory (tree : FileTree) (location : Location) : Except FileError Unit :=
  match tree.node? location with
  | some .directory => .ok ()
  | some _          => .error .notADirectory
  | none            => .error .notFound

-- Follows one segment of a path from where it is read.
def step (tree : FileTree) (here : Location) (segment : String) : Except FileError Location := do
  tree.requireDirectory here
  if segment = "" ∨ segment = "." then return here
  else if segment = ".." then return here.dropLast
  else if segment.utf8ByteSize > longestName then throw .nameTooLong
  else
    match tree.node? (here ++ [segment]) with
    | some _ => return here ++ [segment]
    | none   => throw .notFound

def walk (tree : FileTree) (here : Location) (segments : List String) : Except FileError Location :=
  segments.foldlM tree.step here

-- The location that a path leads to, if something stands there.
def resolve (tree : FileTree) (path : String) : Except FileError Location := do
  checkPath path
  tree.walk (tree.origin path) (Path.segments path)

def existsAt (tree : FileTree) (path : String) : Bool :=
  (tree.resolve path).toBool

-- Reading a full device would never come to an end. That it is refused stands for getting no text.
def readText (tree : FileTree) (path : String) : Except FileError String := do
  match tree.node? (← tree.resolve path) with
  | some .directory      => throw .isADirectory
  | some .fullDevice     => throw .noSpaceLeft
  | some (.file content) =>
    match String.fromUTF8? content with
    | some text => return text
    | none      => throw .notText
  | none                 => throw .notFound

-- The location that writing to a path fills. Its directory has to be there, and a path that can
-- only name a directory names no file.
def target (tree : FileTree) (path : String) : Except FileError Location := do
  checkPath path
  match (Path.segments path).reverse.dropWhile (· = "") with
  | []             => throw .isADirectory
  | name :: before =>
    let directory ← tree.walk (tree.origin path) before.reverse
    tree.requireDirectory directory
    if name = "." ∨ name = ".." ∨ (Path.segments path).getLast? = some "" then throw .isADirectory
    else if name.utf8ByteSize > longestName then throw .nameTooLong
    else
      match tree.node? (directory ++ [name]) with
      | some .directory => throw .isADirectory
      | _               => return directory ++ [name]

-- A location that opens takes every text, unless it is a full device. What becomes of a text for which there is no
-- room is told by a `Volume`.
def writeText (tree : FileTree) (path text : String) : Except WriteError FileTree :=
  match tree.target path with
  | .error e      => .error (.atOpening e)
  | .ok location  =>
    match tree.node? location with
    | some .fullDevice => if text = "" then .ok tree else .error (.atWriting .noSpaceLeft)
    | _                => .ok (tree.put location (.file text.toUTF8))

end FileTree
end BuildConfig
