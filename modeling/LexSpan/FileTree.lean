import LexSpan.Pieces

/-!
# Files and directories

A tree of files and directories, and reading a file of it as text. A path is followed from the top
directory name by name: a name that is missing, a file where the path goes on, a directory at its
end and bytes that are not UTF-8 are the four ways in which reading fails.
-/

namespace LexSpan

/-- Why a file cannot be read as text. -/
inductive ReadError where
  | missing
  | notADirectory
  | isADirectory
  | notUtf8
  /-- Any other reason that the system gives. -/
  | other (reason : String)
deriving DecidableEq

namespace ReadError

/-- The reason as it is reported. -/
def message : ReadError → String
  | missing => "No such file or directory (os error 2)"
  | notADirectory => "Not a directory (os error 20)"
  | isADirectory => "Is a directory (os error 21)"
  | notUtf8 => "stream did not contain valid UTF-8"
  | other reason => reason

end ReadError

/-- The text that bytes stand for. A byte order mark is part of it. -/
def decodeText (bytes : ByteArray) : Except ReadError String :=
  match String.fromUTF8? bytes with
  | none => .error .notUtf8
  | some text => .ok text

/-- What stands at a place in a tree. -/
inductive FileNode where
  | directory
  | file (bytes : ByteArray)

/-- Files and directories by their place: the names from the top directory down. A directory on the
way to an entry need not have one of its own, and a later entry replaces an earlier one. -/
structure FileTree where
  entries : List (List String × FileNode)

namespace FileTree

/-- The names in a path; empty names and names for the directory itself say nothing. -/
def names (path : String) : List String :=
  (pieces '/' path).filter fun name => name ≠ "" && name ≠ "."

/-- The tree that holds the given nodes at the given paths. -/
def ofPaths (nodes : List (String × FileNode)) : FileTree :=
  ⟨nodes.map fun (path, node) => (names path, node)⟩

/-- What stands at a place. The top directory is always there. -/
def node? (tree : FileTree) (place : List String) : Option FileNode :=
  match tree.entries.reverse.find? fun entry => entry.1 = place with
  | some entry => some entry.2
  | none =>
    if place = [] ∨ tree.entries.any (fun entry => place.isPrefixOf entry.1) = true then
      some .directory
    else none

/-- The bytes of the file that a path leads to from a directory. The directory is a place in the
tree, or none above the top, where nothing is known. -/
def follow (tree : FileTree) : Option (List String) → List String → Except ReadError ByteArray
  | _, [] => .error .isADirectory
  | place, name :: path =>
    if name = "" ∨ name = "." then tree.follow place path
    else if name = ".." then
      tree.follow (place.bind fun names => if names = [] then none else some names.dropLast) path
    else
      match place.bind fun names => tree.node? (names ++ [name]) with
      | none => .error .missing
      | some .directory => tree.follow (place.map (· ++ [name])) path
      | some (.file bytes) => if path = [] then .ok bytes else .error .notADirectory

/-- Reads the file at a path as text. A path that starts with a slash starts outside the tree. -/
def read (tree : FileTree) (path : String) : Except ReadError String :=
  let top := if path.startsWith "/" then none else some []
  match tree.follow top (pieces '/' path) with
  | .error e => .error e
  | .ok bytes => decodeText bytes

end FileTree

end LexSpan
