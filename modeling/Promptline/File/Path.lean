import Promptline.Text.Pieces

/-!
# File paths

A path is a root and a list of parts. Empty parts and single points are dropped when a path is
read; a double point stays, because what it means depends on the files.
-/

namespace Promptline

/-- Location of a file or folder. -/
structure FilePath where
  /-- One slash or two for an absolute path, and nothing for a relative one. -/
  root : String := ""
  /-- Names from the outside in. -/
  parts : List String := []
  deriving DecidableEq, Repr

namespace FilePath

/-- Read a path. Exactly two slashes at the front are a root of their own. -/
def ofString (text : String) : FilePath :=
  let slashes := (text.toList.takeWhile (· == '/')).length
  { root := if slashes = 0 then "" else if slashes = 2 then "//" else "/"
    parts := (Text.split '/' text).filter fun part => part != "" && part != "." }

/-- Text of a path; the empty relative path is a point. -/
def text (path : FilePath) : String :=
  if path.root = "" ∧ path.parts = [] then "." else path.root ++ String.intercalate "/" path.parts

/-- Whether a path starts at a root. -/
def isAbsolute (path : FilePath) : Bool :=
  path.root != ""

/-- A path as seen from a folder. -/
def within (folder path : FilePath) : FilePath :=
  if path.isAbsolute then path else { folder with parts := folder.parts ++ path.parts }

/-- A file or folder in a folder. -/
def child (folder : FilePath) (name : String) : FilePath :=
  { folder with parts := folder.parts ++ [name] }

/-- The last name of a path. -/
def name (path : FilePath) : String :=
  path.parts.getLast?.getD ""

/-- The last point of a name and what follows it. A name that starts or ends with its last point
has no suffix. -/
def suffixOf (name : List Char) : List Char :=
  let ending := (name.reverse.takeWhile (· != '.')).reverse
  let stem := name.take (name.length - ending.length - 1)
  if ending.isEmpty || stem.isEmpty then [] else '.' :: ending

/-- The suffix of the last name. -/
def suffix (path : FilePath) : String :=
  String.ofList (suffixOf path.name.toList)

/-- One step into a part, or out of a folder for a double point. -/
def step (place : List String) (part : String) : List String :=
  if part = ".." then place.dropLast else place ++ [part]

/-- The path with every double point carried out. -/
def resolved (path : FilePath) : FilePath :=
  { path with parts := path.parts.foldl step [] }

/-- The folders around a path and the path itself, from the inside out. -/
def ancestors (path : FilePath) : List FilePath :=
  (List.range (path.parts.length + 1)).reverse.map fun length =>
    { path with parts := path.parts.take length }

end FilePath

end Promptline
