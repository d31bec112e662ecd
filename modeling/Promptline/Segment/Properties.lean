import Promptline.Validation.Scalar

/-!
# Segment properties

Settings of a segment. Each kind of segment checks the keys it knows; a rejected value counts as
absent, and unknown keys are kept as they are.
-/

namespace Promptline

open Checked (field optional)

/-- How a directory is shown. -/
inductive PathStyle
  /-- All folders. -/
  | full
  /-- The last folder alone. -/
  | folder
  /-- The first letters of all folders but the last. -/
  | letter
  deriving DecidableEq, Repr

namespace PathStyle

/-- Styles by name. -/
def options : List (String × PathStyle) := [("full", full), ("folder", folder), ("letter", letter)]

/-- Name of a style. -/
def name : PathStyle → String
  | full => "full"
  | folder => "folder"
  | letter => "letter"

end PathStyle

/-- Icons of a repository segment. -/
structure GitIcons where
  /-- Before the branch. -/
  branch : String := ""
  /-- Before the number of commits ahead. -/
  ahead : String := "↑"
  /-- Before the number of commits behind. -/
  behind : String := "↓"
  /-- Before the changes of the working tree. -/
  working : String := "\uf044"
  /-- Before the staged changes. -/
  staging : String := "\uf046"
  /-- Before the number of stashes. -/
  stash : String := "\ueb4b"
  deriving DecidableEq, Repr

/-- Presentation of a directory segment. -/
structure PathDisplay where
  /-- Style. -/
  style : PathStyle := .full
  /-- What stands for the home directory. -/
  homeIcon : String := "~"
  /-- What stands between folders. -/
  separator : String := "/"
  deriving DecidableEq, Repr

/-- Kinds of segments with settings of their own. -/
inductive PropertyKind
  /-- Any other segment. -/
  | plain
  /-- Repository state. -/
  | git
  /-- Memory figures. -/
  | sysinfo
  /-- Current directory. -/
  | path
  /-- Clock. -/
  | time
  deriving DecidableEq, Repr

/-- Settings of one kind of segment. -/
inductive Details
  /-- None. -/
  | plain
  /-- Icons. -/
  | git (icons : GitIcons)
  /-- Decimal places, if given. -/
  | sysinfo (precision : Option Int)
  /-- Presentation of a directory. -/
  | path (display : PathDisplay)
  /-- Layout of the time. -/
  | time (layout : String)
  deriving DecidableEq, Repr

/-- Checked properties of a segment. -/
structure Properties where
  /-- Template, if the segment has none. -/
  template : Option String := none
  /-- Text, if there is no template at all. -/
  text : Option String := none
  /-- Template of what stands before the text. -/
  before : String := ""
  /-- Template of what stands after the text. -/
  after : String := ""
  /-- Settings of the kind of segment. -/
  details : Details := .plain
  /-- Unknown settings. -/
  extras : List (String × Document) := []

namespace PropertyKind

/-- The kind of settings for a kind of segment. -/
def ofType : String → PropertyKind
  | "git" => git
  | "sysinfo" => sysinfo
  | "path" => path
  | "time" => time
  | _ => plain

/-- Name of the kind of settings, as messages give it. -/
def model : PropertyKind → String
  | plain => "SegmentProperties"
  | git => "GitProperties"
  | sysinfo => "SysinfoProperties"
  | path => "PathProperties"
  | time => "TimeProperties"

/-- Keys that every kind knows. -/
def commonKeys : List String := ["template", "text", "prefix", "postfix"]

/-- Keys of one kind. -/
def ownKeys : PropertyKind → List String
  | plain => []
  | git => ["branch_icon", "branch_ahead_icon", "branch_behind_icon", "working_icon",
      "staging_icon", "stash_icon"]
  | sysinfo => ["precision"]
  | path => ["style", "home_icon", "folder_separator_icon"]
  | time => ["time_format"]

/-- Known keys, in order. -/
def keys (kind : PropertyKind) : List String :=
  commonKeys ++ kind.ownKeys

/-- Check the settings of a kind. -/
def details (entries : Entries Document) : PropertyKind → Checked Details
  | plain => .valid .plain
  | git => (Details.git ·) <$> (GitIcons.mk
      <$> field ["branch_icon"] "" .text entries
      <*> field ["branch_ahead_icon"] "↑" .text entries
      <*> field ["branch_behind_icon"] "↓" .text entries
      <*> field ["working_icon"] "\uf044" .text entries
      <*> field ["staging_icon"] "\uf046" .text entries
      <*> field ["stash_icon"] "\ueb4b" .text entries)
  | sysinfo => .sysinfo <$> field ["precision"] none (optional .natural) entries
  | path => (Details.path ·) <$> (PathDisplay.mk
      <$> field ["style"] .full (.choice PathStyle.options) entries
      <*> field ["home_icon"] "~" .text entries
      <*> field ["folder_separator_icon"] "/" .text entries)
  | time => .time <$> field ["time_format"] "15:04:05" .text entries

/-- Settings without any entries. -/
def defaults : PropertyKind → Details
  | plain => .plain
  | git => .git {}
  | sysinfo => .sysinfo none
  | path => .path {}
  | time => .time "15:04:05"

end PropertyKind

namespace Properties

/-- Check all settings at once. -/
def check (kind : PropertyKind) (entries : Entries Document) : Checked Properties :=
  Properties.mk
    <$> field ["template"] none (optional .text) entries
    <*> field ["text"] none (optional .text) entries
    <*> field ["prefix"] "" .text entries
    <*> field ["postfix"] "" .text entries
    <*> kind.details entries
    <*> .valid (entries.filter fun entry => !kind.keys.contains entry.1)

/-- The first message of each rejected key, in order. -/
def rejections (problems : List Problem) : Entries String :=
  problems.foldl (fun rejected problem =>
    let key := problem.location.head?.getD ""
    if Entries.has key rejected then rejected
    else rejected ++ [(key, key ++ ": " ++ problem.message)]) []

/-- The settings of a kind of segment without the rejected ones, and the message of each
rejected key. -/
def validate (kind : PropertyKind) (entries : Entries Document) : Properties × Entries String :=
  match check kind entries with
  | .valid properties => (properties, [])
  | .invalid problems =>
      let rejected := rejections problems
      let kept := entries.filter fun entry => !Entries.has entry.1 rejected
      (((check kind kept).value?).getD { details := kind.defaults }, rejected)

/-- An unknown setting. -/
def extra (key : String) (properties : Properties) : Document :=
  (Entries.get? key properties.extras).getD .null

/-- Settings of a kind under their keys. -/
def detailEntries : Details → Entries Document
  | .plain => []
  | .git icons => [
      ("branch_icon", .string icons.branch), ("branch_ahead_icon", .string icons.ahead),
      ("branch_behind_icon", .string icons.behind), ("working_icon", .string icons.working),
      ("staging_icon", .string icons.staging), ("stash_icon", .string icons.stash)]
  | .sysinfo precision => [("precision", (precision.map Document.int).getD .null)]
  | .path display => [
      ("style", .string display.style.name), ("home_icon", .string display.homeIcon),
      ("folder_separator_icon", .string display.separator)]
  | .time layout => [("time_format", .string layout)]

/-- All settings under their keys: the known ones in order, then the unknown ones. -/
def toEntries (properties : Properties) : Entries Document :=
  let ofText (text : Option String) : Document := (text.map Document.string).getD .null
  [ ("template", ofText properties.template), ("text", ofText properties.text),
    ("prefix", .string properties.before), ("postfix", .string properties.after)] ++
    detailEntries properties.details ++ properties.extras

end Properties

end Promptline
