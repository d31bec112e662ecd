import Promptline.Document.File
import Promptline.Resolve.Issue
import Promptline.Theme.Reading

/-!
# Theme files

Reading a theme from a file, and the reasons why there may be none.
-/

namespace Promptline

/-- Why a theme file cannot be used. -/
inductive ThemeFault
  /-- There is no such file. -/
  | missing (path : FilePath)
  /-- The file cannot be read or decoded. -/
  | unreadable (fault : DocumentFault)
  /-- The document is no table. -/
  | notTable
  /-- The document has the wrong shape. -/
  | invalid (problems : List Problem)

namespace ThemeFault

/-- Text of the problem. -/
def message : ThemeFault → String
  | missing path => "Theme file not found: " ++ path.text
  | unreadable fault => "Failed to read theme: " ++ fault.message
  | notTable => "Theme document must be a mapping at the top level"
  | invalid problems => Theme.refusal problems.length

/-- What is wrong with the shape of the document, one line for each problem. -/
def details : ThemeFault → List String
  | notTable => [notTable.message]
  | invalid problems => problems.map (·.line)
  | _ => []

/-- Whether the document could be decoded and has the wrong shape. -/
def isInvalid : ThemeFault → Bool
  | notTable => true
  | invalid _ => true
  | _ => false

end ThemeFault

namespace Theme

/-- Read a theme file. -/
def load (host : Host) (path : FilePath) : Except ThemeFault Theme :=
  match host.readDocument path with
  | .error (.unreadable _ .missing) => .error (.missing path)
  | .error fault => .error (.unreadable fault)
  | .ok d =>
      match d.textEntries? with
      | none => .error .notTable
      | some _ =>
          match read d with
          | .valid theme => .ok theme
          | .invalid problems => .error (.invalid problems)

/-- The event of having read a theme file. -/
def loaded (path : FilePath) (theme : Theme) : Event :=
  ⟨.debug, "theme_loaded", [
    ("path", .string path.text),
    ("blocks", .int theme.blocks.length),
    ("segments", .int (theme.blocks.flatMap (·.segments)).length)]⟩

end Theme

end Promptline
