import Promptline.Value

/-!
# The context

Everything that a template may refer to: the sections, and the fields that segments have
published. The fields of four sections are also reachable without naming the section.
-/

namespace Promptline

/-- What templates are resolved against. -/
structure Context where
  /-- Environment variables. -/
  env : Environment
  /-- Repository state. -/
  git : Git
  /-- Memory figures. -/
  system : System
  /-- Shell. -/
  shell : Shell
  /-- Directories. -/
  folders : Folders
  /-- Clock reading. -/
  clock : Clock
  /-- Operating system. -/
  platform : Platform
  /-- Fields of the segments processed so far, by segment key. -/
  segments : Entries (Entries Value) := []

namespace Context

/-- Published fields as a value. -/
def segmentsValue (context : Context) : Value :=
  .map (Entries.mapValues .map context.segments)

/-- Template fields of the context itself, in order. -/
def fields (context : Context) : Entries Value :=
  [ ("Env", .environment context.env),
    ("Git", .record (.git context.git)),
    ("System", .record (.system context.system)),
    ("Shell", .record (.shell context.shell)),
    ("Path", .record (.folders context.folders)),
    ("Time", .record (.clock context.clock)),
    ("Os", .record (.platform context.platform)),
    ("Segments", context.segmentsValue) ]

/-- Fields that are reachable without naming their section; an earlier section hides the names
of a later one. -/
def promoted (context : Context) : Entries Value :=
  context.system.fields ++ context.git.fields ++ (Record.shell context.shell).fields ++
    (Record.folders context.folders).fields

/-- The value of a name, or the missing value. -/
def lookup (name : String) (context : Context) : Value :=
  (Entries.get? name (context.fields ++ context.promoted)).getD .missing

/-- Publish the fields of a segment under its key. -/
def withSegment (key : String) (fields : Entries Value) (context : Context) : Context :=
  { context with segments := Entries.insert key fields context.segments }

/-- The context as data, sections in order. -/
def toDocument (context : Context) : Document :=
  .table (Value.entriesToDocument context.fields)

/-- Environment of the stand-in context. -/
def sampleEnvironment : Environment where
  entries := [
    ("HOME", "/home/user"),
    ("USER", "user"),
    ("PATH", "/usr/local/bin:/usr/bin:/bin"),
    ("TERM", "xterm-256color"),
    ("SHELL", "/bin/bash"),
    ("PWD", "/home/user/projects"),
    ("WAKAPI_API_KEY", "mock-api-key")]

/-- Fixed values that stand in for live data when a theme is previewed. -/
def sample (now : Moment) : Context where
  env := sampleEnvironment
  git := { branch := "main", isRepo := true, working := { changed := true, summary := "1" } }
  system := { percentUsed := 25.0, totalMemory := 16000000000, freeMemory := 8000000000 }
  shell := { name := "bash" }
  folders := { currentDir := "/home/user/projects/my-project", homeDir := "/home/user" }
  clock := { now := now }
  platform := { name := "ubuntu" }

end Context

end Promptline
