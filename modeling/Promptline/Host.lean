import Promptline.File.Tree
import Promptline.Moment
import Promptline.Text.Blank

/-!
# The host of a run

What a run can see of the machine: environment variables, files, the current folder and the
clock; and the folders that belong to this program. Variables and paths are texts of Unicode
characters: names and values that are no UTF-8 are left out.
-/

namespace Promptline

/-- Name of the program, which its own folders carry. -/
def applicationName : String := "omprender"

/-- What a run can see of the machine. -/
structure Host where
  /-- Environment variables. -/
  environment : Entries String := []
  /-- The current folder. -/
  folder : FilePath := { root := "/" }
  /-- Home folder of the account. -/
  accountHome : String := "/root"
  /-- Files and folders. -/
  files : FileTree := {}
  /-- The time. -/
  now : Moment := { year := 1970, month := 1, day := 1, zone := some Zone.universal }
  /-- Nested calls that are left for loading settings, of the thousand that an interpreter makes. -/
  room : Nat := 960

namespace Host

/-- The text of an environment variable that is set. -/
def get? (host : Host) (name : String) : Option String :=
  Entries.get? name host.environment

/-- A path as seen from the current folder. -/
def absolute (host : Host) (path : FilePath) : FilePath :=
  host.folder.within path

/-- The text of a file. -/
def read (host : Host) (path : FilePath) : Except FileFault String :=
  host.files.read (host.absolute path)

/-- Whether there is a file or a folder at a path. -/
def hasPath (host : Host) (path : FilePath) : Bool :=
  match host.files.find (host.absolute path) with
  | .ok _ => true
  | .error _ => false

/-- Whether there is a file at a path. -/
def hasFile (host : Host) (path : FilePath) : Bool :=
  match host.files.find (host.absolute path) with
  | .ok .folder => false
  | .ok _ => true
  | .error _ => false

/-- The home folder, without slashes at the end. -/
def home (host : Host) : String :=
  let text := (host.get? "HOME").getD host.accountHome
  String.ofList (Text.dropEndWhile (· == '/') text.toList)

/-- A base folder: what a variable names, unless it is blank, and else a folder below the home
folder. -/
def base (host : Host) (name below : String) : FilePath :=
  let text := (host.get? name).getD ""
  if Text.trim text = "" then .ofString (host.home ++ below) else .ofString text

/-- The folder of the user's settings. -/
def settingsFolder (host : Host) : FilePath :=
  (host.base "XDG_CONFIG_HOME" "/.config").child applicationName

/-- The user's settings file. -/
def settingsFile (host : Host) : FilePath :=
  host.settingsFolder.child "config.toml"

/-- The folder of the log files. -/
def logFolder (host : Host) : FilePath :=
  ((host.base "XDG_STATE_HOME" "/.local/state").child applicationName).child "log"

/-- The log file of the command line. -/
def logFile (host : Host) : FilePath :=
  host.logFolder.child "cli.log"

end Host

end Promptline
