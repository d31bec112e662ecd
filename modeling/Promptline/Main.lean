import Promptline.CommandLine.Run
import Std.Time.DateTime.Timestamp

/-!
# The program

What a run needs of the machine is gathered first, and what it does is carried out last. All that
lies between is a function.
-/

namespace Promptline.Main

/-- The environment variables as the system keeps them, with their names in front. -/
def environment : IO (Entries String) := do
  let content ← IO.FS.readFile "/proc/self/environ"
  return (content.splitOn "\x00").filterMap fun entry =>
    match Text.splitOn '=' entry.toList with
    | name :: value@(_ :: _) => some (String.ofList name, String.ofList (Text.joinWith ['='] value))
    | _ => none

/-- The time in universal time. -/
def now : IO Moment := do
  let stamp ← Std.Time.Timestamp.now
  let nanoseconds := stamp.toNanosecondsSinceUnixEpoch.val
  let micro := (nanoseconds / 1000 % 1000000).toNat
  return (Moment.ofUnixTime? (nanoseconds / 1000000000) micro).getD ({} : Host).now

/-- What is at a path, if there is anything. -/
def nodeAt? (path : String) : IO (Option FileNode) := do
  let place := (← IO.currentDir) / path
  if ← place.isDir then return some .folder
  if !(← place.pathExists) then return none
  match String.fromUTF8? (← IO.FS.readBinFile place) with
  | some text => return some (.file text)
  | none => return some .binary

/-- What is at some paths and around them. -/
def filesAt (paths : List FilePath) : IO FileTree := do
  let places := (paths.flatMap (·.ancestors)).eraseDups
  let nodes ← places.filterMapM fun place => do
    return (← nodeAt? place.text).map (place.parts, ·)
  return ⟨nodes⟩

/-- The host that this process runs on, with the files that arguments make it read. -/
def hostFor (arguments : List String) : IO Host := do
  let folder := FilePath.ofString (← IO.currentDir).toString
  let host : Host := { environment := ← environment, folder := folder, now := ← now }
  let paths := (CommandLine.filesOf host arguments).map fun path => (host.absolute path).resolved
  return { host with files := ← filesAt paths }

/-- Add lines to a file, in a folder that is made if it is missing. -/
def append (host : Host) (path : FilePath) (lines : List String) : IO Unit := do
  let path := host.absolute path
  IO.FS.createDirAll { path with parts := path.parts.dropLast }.text
  let file ← IO.FS.Handle.mk path.text .append
  lines.forM file.putStrLn

end Promptline.Main

/-- Run the command line. -/
def main (arguments : List String) : IO UInt32 := do
  let host ← Promptline.Main.hostFor arguments
  let run := Promptline.CommandLine.Run.ofArguments host arguments
  if let some (path, lines) := run.log then Promptline.Main.append host path lines
  IO.print run.output
  match run.ending with
  | .help => Promptline.CommandLine.usage.forM IO.println
  | .misused fault => IO.eprintln fault.message
  | .broken breakdown => IO.eprintln breakdown.message
  | .unwritable fault => IO.eprintln fault.message
  | _ => run.messages.forM IO.eprintln
  return run.ending.status.toUInt32
