import Promptline.Moment
import Promptline.Number.Limit
import Promptline.Number.Notation

/-!
# Context records

The sections of the context that templates look into: repository state, memory figures, shell,
folders, clock and platform.
-/

namespace Promptline

/-- Summary of the changed files of the working tree or of the staging area. -/
structure Changes where
  /-- Whether anything changed. -/
  changed : Bool := false
  /-- Text of the summary. -/
  summary : String := ""
  deriving DecidableEq, Repr

/-- State of the repository around the current directory. -/
structure Git where
  /-- Branch name. -/
  branch : String := ""
  /-- Whether there is a repository at all. -/
  isRepo : Bool := true
  /-- Commits that the remote branch lacks. -/
  ahead : Int := 0
  /-- Commits that the local branch lacks. -/
  behind : Int := 0
  /-- Changes of the working tree. -/
  working : Changes := {}
  /-- Changes that are staged. -/
  staging : Changes := {}
  /-- Number of stashes. -/
  stashCount : Int := 0
  deriving DecidableEq, Repr

namespace Git

/-- The state of a directory outside any repository. -/
def absent : Git := { isRepo := false }

/-- What templates see: outside a repository every other field is zero. -/
def visible (git : Git) : Git :=
  if git.isRepo then git else absent

@[simp]
theorem visible_of_isRepo_eq_false {git : Git} (outside : git.isRepo = false) :
    git.visible = absent := by
  simp [visible, outside]

end Git

/-- Processor and memory figures. -/
structure System where
  /-- Share of memory in use, in percent. -/
  percentUsed : Float := 0.0
  /-- Decimal places that figures should be shown with. -/
  precision : Int := 0
  /-- Bytes of memory. -/
  totalMemory : Int := 0
  /-- Bytes of memory not in use. -/
  freeMemory : Int := 0

/-- Memory figures that contradict each other. -/
structure MemoryFault where
  /-- Free memory as given. -/
  free : Int
  /-- Total memory as given. -/
  total : Int
  deriving DecidableEq, Repr

namespace MemoryFault

/-- Text of the problem; it cannot name figures that are too long to be written. -/
def message (fault : MemoryFault) : String :=
  if Number.isTooLong fault.free || Number.isTooLong fault.total then DigitLimit.writing.message
  else "PhysicalFreeMemory must be between 0 and PhysicalTotalMemory, got " ++
    Number.intText fault.free ++ " of " ++ Number.intText fault.total

end MemoryFault

namespace System

/-- Free memory is not negative and no more than the total. -/
def Balanced (system : System) : Prop :=
  0 ≤ system.freeMemory ∧ system.freeMemory ≤ system.totalMemory

instance (system : System) : Decidable system.Balanced :=
  inferInstanceAs (Decidable (_ ∧ _))

/-- Accept balanced figures only. -/
def check (system : System) : Except MemoryFault System :=
  if system.Balanced then .ok system else .error ⟨system.freeMemory, system.totalMemory⟩

end System

/-- The shell that shows the prompt. -/
structure Shell where
  /-- Name of the shell. -/
  name : String := ""
  deriving DecidableEq, Repr

/-- Directories. -/
structure Folders where
  /-- Current directory. -/
  currentDir : String := ""
  /-- Home directory. -/
  homeDir : String := ""
  deriving DecidableEq, Repr

/-- Clock reading of a render pass. -/
structure Clock where
  /-- The reading. -/
  now : Moment
  deriving DecidableEq, Repr

/-- Operating system. -/
structure Platform where
  /-- Name of the platform. -/
  name : String := ""
  deriving DecidableEq, Repr

/-- Environment variables by name. An unknown name reads as the empty text. -/
structure Environment where
  /-- Variables, in the order in which they were first set. -/
  entries : List (String × String) := []
  deriving DecidableEq, Repr

/-- A section of the context, as a value. -/
inductive Record
  /-- Summary of changes. -/
  | changes (changes : Changes)
  /-- Repository state. -/
  | git (git : Git)
  /-- Memory figures. -/
  | system (system : System)
  /-- Shell. -/
  | shell (shell : Shell)
  /-- Directories. -/
  | folders (folders : Folders)
  /-- Clock reading. -/
  | clock (clock : Clock)
  /-- Operating system. -/
  | platform (platform : Platform)

namespace Record

/-- Name of the kind of record, as messages give it. -/
def typeName : Record → String
  | changes _ => "GitChanges"
  | git _ => "GitContext"
  | system _ => "SystemContext"
  | shell _ => "ShellContext"
  | folders _ => "PathContext"
  | clock _ => "TimeContext"
  | platform _ => "OsContext"

/-- What a placeholder shows for a whole record: the summary of changes, and nothing else. -/
def text : Record → String
  | changes c => c.summary
  | _ => ""

end Record

end Promptline
