import Promptline.Document.Json
import Promptline.Host
import Promptline.Resolve.Issue
import Promptline.Settings
import Promptline.Text.Case

/-!
# Log files

Events become lines of a log file. A logger drops events that are less severe than its threshold
and binds the name of the running command to every line.
-/

namespace Promptline

/-- What writes events to a log file. -/
structure Logger where
  /-- The log file. -/
  path : FilePath
  /-- Least rank that is written. -/
  threshold : Nat
  /-- Notation of the lines. -/
  format : LogFormat := .json
  /-- The running command; empty if none is bound. -/
  command : String := ""
  deriving DecidableEq, Repr

namespace Log

/-- Ranks by the names that a threshold may be given by, in upper case. -/
def ranks : List (String × Nat) := [
  ("CRITICAL", 50), ("FATAL", 50), ("ERROR", 40), ("WARN", 30), ("WARNING", 30), ("INFO", 20),
  ("DEBUG", 10), ("NOTSET", 0)]

/-- The rank with a name in any case; an unknown name means normal progress. -/
def rankOf (name : String) : Nat :=
  (ranks.lookup (Text.upper name)).getD Severity.info.rank

/-- Whether the host asks for detail in any case. -/
def isForced (host : Host) : Bool :=
  (host.get? "OMPRENDER_DEBUG").any (· != "")

/-- The threshold: everything if the host forces it, else the given level, else the one that the
host names. -/
def threshold (host : Host) (level : Option String) : Nat :=
  if isForced host then Severity.debug.rank
  else rankOf (level.getD ((host.get? "OMPRENDER_LOG_LEVEL").getD "info"))

/-- The notation with a name; any other name than the one for JSON means text. -/
def formatOf (name : String) : LogFormat :=
  if name = LogFormat.json.name then .json else .text

/-- Characters that make a text value be quoted. -/
def needsQuotes (c : Char) : Bool :=
  " \t=\r\n\"'".toList.contains c

mutual

/-- A value inside a list or a table. -/
def shown : Document → String
  | .null => "None"
  | .bool b => if b then "True" else "False"
  | .int n => Number.intText n
  | .float x => Number.floatText x
  | .string s => Text.quoted s
  | .list items => "[" ++ shownItems items ++ "]"
  | .table entries => "\x7b" ++ shownEntries entries ++ "\x7d"
  | .moment m => m.isoText
  | .date year month day => Moment.dateText { year := year, month := month, day := day }
  | .clock .. => ""
  | .mapping _ => ""
  | .bytes _ => ""

/-- Items with commas between them. -/
def shownItems : List Document → String
  | [] => ""
  | [item] => shown item
  | item :: items => shown item ++ ", " ++ shownItems items

/-- Entries with commas between them. -/
def shownEntries : List (String × Document) → String
  | [] => ""
  | [(key, value)] => Text.quoted key ++ ": " ++ shown value
  | (key, value) :: rest => Text.quoted key ++ ": " ++ shown value ++ ", " ++ shownEntries rest

end

/-- A value at the end of a pair; a text has quotes only if it needs them. -/
def shownField : Document → String
  | .string s => if s.toList.any needsQuotes then Text.quoted s else s
  | d => shown d

/-- Entries in the order of their names. -/
def sortByName (entries : Entries Document) : Entries Document :=
  entries.mergeSort fun a b => decide (a.1 < b.1) || a.1 == b.1

/-- The entries of an event: the bound command, the details, what happened, how severe it is and
when it happened. -/
def entries (command stamp : String) (event : Event) : Entries Document :=
  let bound := if command = "" then [] else [("command", Document.string command)]
  Entries.overlay (Entries.overlay bound event.fields) [
    ("event", .string event.name), ("level", .string event.severity.name),
    ("timestamp", .string stamp)]

/-- Names of the entries that have a column of their own. -/
def columnNames : List String := ["event", "level", "timestamp"]

/-- A line of columns: time, severity, what happened, and the details by name. -/
def columns (command stamp : String) (event : Event) : String :=
  let details := (entries command stamp event).filter fun entry => !columnNames.contains entry.1
  let pairs := (sortByName details).map fun (name, value) => name ++ "=" ++ shownField value
  let line := String.intercalate " " ([
    stamp,
    "[" ++ Text.padRight 9 event.severity.name ++ "]",
    Text.padRight 30 event.name] ++ pairs)
  String.ofList (Text.dropEndWhile (· == ' ') line.toList)

/-- The line of an event, in a notation. -/
def line (format : LogFormat) (command stamp : String) (event : Event) : String :=
  match format with
  | .json => ((Json.write .log (.table (entries command stamp event))).toOption).getD ""
  | .text => columns command stamp event

/-- How lines give the time. -/
def stamp (host : Host) : String :=
  host.now.dateText ++ "T" ++ host.now.clockText ++ host.now.fractionText ++ "Z"

end Log

namespace Logger

/-- A logger for a file. -/
def ofFile (host : Host) (path : FilePath) (level : Option String) (format : LogFormat) :
    Logger where
  path := path
  threshold := Log.threshold host level
  format := format

/-- The logger of a command line run. It writes to the given file, or to the host's one. -/
def ofCommand (host : Host) (level : String) (format : LogFormat) (file command : String) :
    Logger :=
  let path := if file = "" then host.logFile else .ofString file
  { ofFile host path (some level) format with command := command }

/-- Whether an event is severe enough to be written. -/
def accepts (logger : Logger) (event : Event) : Bool :=
  logger.threshold ≤ event.severity.rank

/-- The lines that are written for events. -/
def lines (logger : Logger) (stamp : String) (events : List Event) : List String :=
  (events.filter logger.accepts).map (Log.line logger.format logger.command stamp)

end Logger

end Promptline
