import NodeAtlas.Dict
import NodeAtlas.Text.Blank

/-!
# File trees

A snapshot of files and directories, as far as reading texts from it goes.
-/

namespace NodeAtlas

open NodeAtlas.Text

/-- What a path leads to. -/
inductive FileNode where
  /-- A file with the given bytes. -/
  | file (bytes : ByteArray)
  | directory

/-- A snapshot of files and directories by their paths, without empty and single-dot components. -/
structure FileTree where
  /-- The nodes by path. -/
  nodes : Dict FileNode

namespace FileTree

/-- The tree that holds nothing. -/
def empty : FileTree := ⟨∅⟩

/-- The components of a path that lead anywhere. -/
def components (path : String) : List String :=
  (split '/' path).filter fun c => c ≠ "" ∧ c ≠ "."

/-- The path with the given components. -/
def pathOf (cs : List String) : String := "/".intercalate cs

def add (t : FileTree) (path : String) (node : FileNode) : FileTree :=
  ⟨t.nodes.insert (pathOf (components path)) node⟩

/-- The path leads to a directory: the root, one that is listed, or one that a listed path runs
through. -/
def isDirectory (t : FileTree) (cs : List String) : Bool :=
  cs.isEmpty ||
    t.nodes.entries.any fun e =>
      match e.2 with
      | .directory => (components e.1).take cs.length == cs
      | .file _ => (components e.1).dropLast.take cs.length == cs

/-- Follows the components of a path from a directory; two dots lead up. -/
def follow (t : FileTree) (place : List String) : List String → Option (List String)
  | [] => some place
  | c :: cs =>
    if !t.isDirectory place then none
    else if c = ".." then follow t place.dropLast cs
    else follow t (place ++ [c]) cs

/-- The text of the file at a path, unless there is none or its bytes are no text. -/
def readText? (t : FileTree) (path : String) : Option String :=
  match t.follow [] (components path) with
  | none => none
  | some place =>
    match t.nodes.find? (pathOf place) with
    | some (.file bytes) => String.fromUTF8? bytes
    | _ => none

/-- The path of a file seen from a directory; an absolute path stays as it is. -/
def joinPath (directory file : String) : String :=
  if file.toList.head? = some '/' then file
  else if directory.isEmpty || directory.toList.getLast? = some '/' then directory ++ file
  else directory ++ "/" ++ file

end FileTree

end NodeAtlas
