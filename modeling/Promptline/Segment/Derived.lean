import Promptline.Context
import Promptline.Moment.Layout
import Promptline.Segment.Location

/-!
# Derived fields

The fields that a segment publishes, computed from the context and its properties. Kinds of
segments that have none publish nothing. A count that is too long to be written leaves a repository
segment without fields.
-/

namespace Promptline.Derived

/-- Icon and summary of changes, if there are any. -/
def changesStatus (icon : String) (changes : Changes) : String :=
  if changes.changed then icon ++ changes.summary else ""

/-- Icon and count, if the count is positive. -/
def countStatus (icon : String) (count : Int) : Except DigitLimit (List String) := do
  if 0 < count then
    let text ← (Value.int count).text
    return [icon ++ text]
  else return []

/-- Fields of a repository segment; outside a repository they are all zero. -/
def git (context : Context) (icons : GitIcons) : Except DigitLimit (Entries Value) := do
  let git := context.git.visible
  let ahead ← countStatus icons.ahead git.ahead
  let behind ← countStatus icons.behind git.behind
  let stash ← countStatus icons.stash git.stashCount
  let status := ([changesStatus icons.working git.working,
    changesStatus icons.staging git.staging] ++ stash).filter (· != "")
  return [
    ("HEAD", .string (if git.isRepo then icons.branch ++ git.branch else "")),
    ("BranchStatus", .string (String.intercalate " " (ahead ++ behind))),
    ("Status", .string (String.intercalate " " status)),
    ("UpstreamIcon", .string ""),
    ("Branch", .string git.branch),
    ("IsRepo", .bool git.isRepo),
    ("Ahead", .int git.ahead),
    ("Behind", .int git.behind),
    ("Working", .record (.changes git.working)),
    ("Staging", .record (.changes git.staging)),
    ("StashCount", .int git.stashCount)]

/-- Fields of a memory segment. -/
def sysinfo (context : Context) (precision : Option Int) : Entries Value :=
  let system := context.system
  [ ("PhysicalPercentUsed", .float system.percentUsed),
    ("Precision", .int (precision.getD system.precision)),
    ("PhysicalTotalMemory", .int system.totalMemory),
    ("PhysicalFreeMemory", .int system.freeMemory),
    ("PhysicalUsedMemory", .int (system.totalMemory - system.freeMemory)) ]

/-- Fields of a shell segment. -/
def shell (context : Context) : Entries Value :=
  [("Name", .string context.shell.name)]

/-- Fields of a platform segment; its icons are the unknown properties. -/
def platform (context : Context) (properties : Properties) : Entries Value :=
  let name := context.platform.name
  let icon := match if name = "" then Document.null else properties.extra name with
    | .string icon => icon
    | _ => ""
  [("OS", .string name), ("Icon", .string icon)]

/-- Fields of a directory segment. -/
def path (context : Context) (display : PathDisplay) : Entries Value :=
  let folders := context.folders
  let location := Location.ofPath folders.currentDir folders.homeDir display.homeIcon
  [ ("Path", .string (location.display display)),
    ("Folder", .string location.folder),
    ("Location", .string folders.currentDir),
    ("HomeDir", .string folders.homeDir) ]

/-- Fields of a clock segment. -/
def time (context : Context) (layout : String) : Entries Value :=
  let now := context.clock.now
  [("CurrentDate", .moment now), ("Format", .string (Moment.Layout.format now layout))]

/-- Fields of a segment of the given kind. -/
def fields (type : String) (context : Context) (properties : Properties) :
    Except DigitLimit (Entries Value) :=
  match properties.details, type with
  | .git icons, _ => git context icons
  | .sysinfo precision, _ => .ok (sysinfo context precision)
  | .path display, _ => .ok (path context display)
  | .time layout, _ => .ok (time context layout)
  | .plain, "shell" => .ok (shell context)
  | .plain, "os" => .ok (platform context properties)
  | .plain, _ => .ok []

end Promptline.Derived
