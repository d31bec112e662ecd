import Promptline.Context.Snapshot
import Promptline.Document.File

/-!
# Snapshot files

Reading a snapshot from a file and laying it over a context.
-/

namespace Promptline

/-- Why a snapshot file cannot be used. -/
inductive SnapshotFileFault
  /-- The file cannot be read or decoded. -/
  | unreadable (fault : DocumentFault)
  /-- The document is no table. -/
  | notTable
  /-- The snapshot is refused. -/
  | refused (fault : SnapshotFault)

namespace SnapshotFileFault

/-- Text of the problem. -/
def message : SnapshotFileFault → String
  | unreadable fault => "Failed to read context snapshot: " ++ fault.message
  | notTable => "Context snapshot must be a mapping at the top level"
  | refused fault => fault.message

end SnapshotFileFault

namespace Context

/-- Lay the snapshot of a file over a context. A document without a value gives nothing. -/
def load (host : Host) (path : FilePath) (base : Context) : Except SnapshotFileFault Context :=
  match host.readDocument path with
  | .error fault => .error (.unreadable fault)
  | .ok .null => (base.merge (.table [])).mapError .refused
  | .ok d =>
      match d.textEntries? with
      | none => .error .notTable
      | some _ => (base.merge d).mapError .refused

end Context

end Promptline
