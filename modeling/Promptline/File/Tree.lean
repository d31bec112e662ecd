import Promptline.Entries
import Promptline.File.Path
import Promptline.Text.Quoted

/-!
# File trees

The files and folders that a run can see, and looking one up the way a file system does: every
part of a path but the last has to lead through a folder.
-/

namespace Promptline

/-- A file or a folder. -/
inductive FileNode
  /-- A file with its text. -/
  | file (content : String)
  /-- A file whose bytes are no UTF-8 text. -/
  | binary
  /-- A folder. -/
  | folder
  deriving DecidableEq, Repr

/-- Files and folders by place, a place being the names from the root. Folders around a file need
no entry. -/
structure FileTree where
  /-- Nodes by place. -/
  nodes : List (List String × FileNode) := []
  deriving DecidableEq, Repr

/-- Why a file cannot be read. -/
inductive FileFault
  /-- There is nothing at the path. -/
  | missing
  /-- A part of the path that should be a folder is a file. -/
  | notFolder
  /-- There is a folder at the path. -/
  | isFolder
  /-- The file is no text. -/
  | notText
  deriving DecidableEq, Repr

namespace FileFault

/-- Text of the problem with a path, except for the bytes that are no text. -/
def message (path : FilePath) : FileFault → String
  | missing => "[Errno 2] No such file or directory: " ++ Text.quoted path.text
  | notFolder => "[Errno 20] Not a directory: " ++ Text.quoted path.text
  | isFolder => "[Errno 21] Is a directory: " ++ Text.quoted path.text
  | notText => "'utf-8' codec can't decode bytes"

end FileFault

namespace FileTree

/-- The node at a place. The root and the places that lead to a node are folders. -/
def node? (tree : FileTree) (place : List String) : Option FileNode :=
  match tree.nodes.find? (·.1 = place) with
  | some (_, node) => some node
  | none => if tree.nodes.any (place.isPrefixOf ·.1) || place.isEmpty then some .folder else none

/-- The place that parts of a path lead to. -/
def locate (tree : FileTree) : List String → List String → Except FileFault (List String)
  | place, [] => .ok place
  | place, part :: rest =>
      match tree.node? place with
      | some .folder => tree.locate (FilePath.step place part) rest
      | some _ => .error .notFolder
      | none => .error .missing

/-- The node at an absolute path. -/
def find (tree : FileTree) (path : FilePath) : Except FileFault FileNode :=
  match tree.locate [] path.parts with
  | .error fault => .error fault
  | .ok place =>
      match tree.node? place with
      | some node => .ok node
      | none => .error .missing

/-- Text of the file at an absolute path. -/
def read (tree : FileTree) (path : FilePath) : Except FileFault String :=
  match tree.find path with
  | .ok (.file content) => .ok content
  | .ok .binary => .error .notText
  | .ok .folder => .error .isFolder
  | .error fault => .error fault

end FileTree

end Promptline
