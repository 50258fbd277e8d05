import ChainScenario.Bytes.Basic
import ChainScenario.Files.Path
import ChainScenario.OrdMap
import ChainScenario.Text.Utf8

/-!
# File trees

The files a run may read, as a tree of directories. A path is followed name by name from the root or
from the working directory, so that a missing directory is noticed even before a double dot.
-/
namespace ChainScenario.Files

/-- Why a path cannot be read. -/
inductive Fault where
  | notFound
  | notADirectory
  | isADirectory
  | nameTooLong
  | nulInName
  deriving Repr, DecidableEq

/-- Why a path cannot be read, in the words of the operating system. -/
def Fault.message : Fault → String
  | .notFound => "No such file or directory (os error 2)"
  | .notADirectory => "Not a directory (os error 20)"
  | .isADirectory => "Is a directory (os error 21)"
  | .nameTooLong => "File name too long (os error 36)"
  | .nulInName => "file name contained an unexpected NUL byte"

/-- A file, or a directory with its named entries. -/
inductive Node where
  | file (contents : Bytes)
  | directory (entries : List (String × Node))
  deriving Inhabited

namespace Node

/-- The directory without entries. -/
def emptyDirectory : Node := .directory []

def childNamed? (name : String) : List (String × Node) → Option Node
  | [] => none
  | (other, node) :: entries => if other = name then some node else childNamed? name entries

def setEntry (name : String) (node : Node) : List (String × Node) → List (String × Node)
  | [] => [(name, node)]
  | (other, old) :: entries =>
    if other = name then (name, node) :: entries else (other, old) :: setEntry name node entries

/-- The tree with something put at the end of a list of names, and the directories on the way. -/
def put : Node → List String → Node → Node
  | _, [], added => added
  | .directory entries, name :: names, added =>
    let below := (childNamed? name entries).getD emptyDirectory
    .directory (setEntry name (below.put names added) entries)
  | .file _, name :: names, added => .directory [(name, emptyDirectory.put names added)]

mutual

/-- The files below a node, each directory's entries by name, with `path` in front. -/
def walk (path : String) : Node → List String
  | .file _ => [path]
  | .directory entries => (OrdMap.ofList (walkEntries path entries)).values.flatten

/-- The files below every entry, under the entry's name. -/
def walkEntries (path : String) : List (String × Node) → List (String × List String)
  | [] => []
  | (name, node) :: entries => (name, walk (Path.join path name) node) :: walkEntries path entries

end

end Node

/-- The files of a run: the root directory and the path of the working directory. -/
structure Tree where
  root : Node
  workingDirectory : String

/-- The longest name of a directory entry, in bytes. -/
def maxName : Nat := 255

/-- The longest path, in bytes. -/
def maxPath : Nat := 4095

/-- Follows segments from a directory; `ancestors` are the directories above it, nearest first. -/
def follow (ancestors : List Node) : Node → List (List Char) → Except Fault Node
  | node, [] => .ok node
  | .file _, _ :: _ => .error .notADirectory
  | .directory entries, segment :: segments =>
    if Path.isSilent segment then follow ancestors (.directory entries) segments
    else if segment == ['.', '.'] then
      match ancestors with
      -- above the root is the root
      | [] => follow [] (.directory entries) segments
      | above :: ancestors => follow ancestors above segments
    else if maxName < (Utf8.encode segment).length then .error .nameTooLong
    else
      match Node.childNamed? (String.ofList segment) entries with
      | some node => follow (.directory entries :: ancestors) node segments
      | none => .error .notFound

namespace Tree

/-- The path with the working directory in front, unless it is absolute. -/
def absolute (tree : Tree) (path : String) : String :=
  Path.join tree.workingDirectory path

def node (tree : Tree) (path : String) : Except Fault Node :=
  if path.toList.contains (Char.ofNat 0) then .error .nulInName
  else if path.isEmpty then .error .notFound
  else if maxPath < (Utf8.ofString path).length then .error .nameTooLong
  else follow [] tree.root (Path.segments (tree.absolute path))

/-- The contents of the file at a path. -/
def read (tree : Tree) (path : String) : Except Fault Bytes := do
  match ← tree.node path with
  | .file contents => return contents
  | .directory _ => throw .isADirectory

def isDirectory (tree : Tree) (path : String) : Bool :=
  match tree.node path with
  | .ok (.directory _) => true
  | _ => false

def isFile (tree : Tree) (path : String) : Bool :=
  match tree.node path with
  | .ok (.file _) => true
  | _ => false

/-- The files at and below a path, depth first, the entries of every directory by name. -/
def walk (tree : Tree) (path : String) : Except Fault (List String) := do
  return (← tree.node path).walk path

def putNode (tree : Tree) (path : String) (node : Node) : Tree :=
  let names := (Path.segments path).filter (!Path.isSilent ·)
  { tree with root := tree.root.put (names.map String.ofList) node }

def put (tree : Tree) (path : String) (contents : Bytes) : Tree :=
  tree.putNode path (.file contents)

end Tree
end ChainScenario.Files
