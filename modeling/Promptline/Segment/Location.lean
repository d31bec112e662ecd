import Promptline.Segment.Properties
import Promptline.Text.Blank
import Promptline.Text.Pieces

/-!
# Displayed directories

A directory is shown as a head, which is the icon of the home directory or the root, and the
folders below it.
-/

namespace Promptline

/-- A directory cut into the part that is shown as one sign and the folders below it. -/
structure Location where
  /-- The home icon, a slash for the root, or nothing. -/
  head : String
  /-- Folders, from the outside in. -/
  folders : List String
  deriving DecidableEq, Repr

namespace Location

/-- The non-empty parts of a path. -/
def parts (path : List Char) : List String :=
  ((Text.splitOn '/' path).filter fun part => !part.isEmpty).map String.ofList

/-- What follows the home directory in a path that leads into it. -/
def below? (home path : List Char) : Option (List Char) :=
  match Text.afterPrefix? home path with
  | some [] => some []
  | some ('/' :: rest) => some ('/' :: rest)
  | _ => none

/-- Cut a path at the home directory if it leads into it, and at the root otherwise. -/
def ofPath (path home homeIcon : String) : Location :=
  let home := Text.dropEndWhile (· == '/') home.toList
  match if home.isEmpty then none else below? home path.toList with
  | some rest => ⟨homeIcon, parts rest⟩
  | none => ⟨if path.toList.head? = some '/' then "/" else "", parts path.toList⟩

/-- The last folder, or the head if there is none. -/
def folder (location : Location) : String :=
  location.folders.getLast?.getD location.head

/-- The location in one line. -/
def join (separator : String) (location : Location) : String :=
  if location.head = "/" then "/" ++ String.intercalate separator location.folders
  else if location.head = "" then String.intercalate separator location.folders
  else String.intercalate separator (location.head :: location.folders)

/-- The first letter of a folder, with the dot before it if there is one. -/
def abbreviate (folder : String) : String :=
  match folder.toList with
  | '.' :: rest => String.ofList ('.' :: rest.take 1)
  | cs => String.ofList (cs.take 1)

/-- The location with all folders but the last one abbreviated. -/
def shortened (location : Location) : Location :=
  { location with
    folders := location.folders.dropLast.map abbreviate ++ location.folders.getLast?.toList }

/-- The location as a segment shows it. -/
def display (style : PathDisplay) (location : Location) : String :=
  match style.style with
  | .full => location.join style.separator
  | .folder => location.folder
  | .letter => location.shortened.join style.separator

end Location

end Promptline
