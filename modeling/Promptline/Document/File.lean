import Promptline.Document.Json
import Promptline.Document.Toml
import Promptline.Document.Yaml
import Promptline.Host

/-!
# Document files

A document file is decoded by the notation that its suffix names, in any case.
-/

namespace Promptline

/-- Notation of a document file. -/
inductive DocumentFormat
  /-- JSON. -/
  | json
  /-- TOML. -/
  | toml
  /-- YAML. -/
  | yaml
  deriving DecidableEq, Repr

namespace DocumentFormat

/-- Notations by suffix, in order. -/
def suffixes : List (String × DocumentFormat) :=
  [(".json", json), (".toml", toml), (".yaml", yaml), (".yml", yaml)]

/-- Name of a notation. -/
def name : DocumentFormat → String
  | json => "JSON"
  | toml => "TOML"
  | yaml => "YAML"

/-- Line ends in the form of a single line feed. -/
def withLineFeeds : List Char → List Char
  | '\r' :: '\n' :: cs => '\n' :: withLineFeeds cs
  | c :: cs => (if c = '\r' then '\n' else c) :: withLineFeeds cs
  | [] => []

/-- Decode a text, however deeply its lists and tables are nested. -/
def decode (format : DocumentFormat) (text : String) : Except DecodeFault Document :=
  let lines := String.ofList (withLineFeeds text.toList)
  match format with
  | json =>
      match Json.read? .words lines with
      | some d => .ok d
      | none => .error .malformed
  | toml => (Toml.read (Toml.calls text.toList) text).map .table
  | yaml => Yaml.read lines

/-- Text of the refusal to decode. -/
def refusal (format : DocumentFormat) : DecodeFault → String
  | .malformed => "invalid " ++ format.name
  | .tooLong limit => limit.message
  | .tooDeep => Breakdown.tooDeep.message

end DocumentFormat

/-- Why a document file cannot be used. -/
inductive DocumentFault
  /-- The suffix names no notation. -/
  | unsupported (suffix : String)
  /-- The file cannot be read. -/
  | unreadable (path : FilePath) (fault : FileFault)
  /-- The text cannot be decoded. -/
  | undecodable (format : DocumentFormat) (fault : DecodeFault)

namespace DocumentFault

/-- Text of the problem. -/
def message : DocumentFault → String
  | unsupported suffix =>
      "Unsupported document type '" ++ suffix ++ "' (expected one of " ++
        String.intercalate ", " (DocumentFormat.suffixes.map (·.1)) ++ ")"
  | unreadable path fault => fault.message path
  | undecodable format fault => format.refusal fault

end DocumentFault

namespace Host

/-- Read and decode a document file. -/
def readDocument (host : Host) (path : FilePath) : Except DocumentFault Document :=
  let suffix := Text.lower path.suffix
  match DocumentFormat.suffixes.lookup suffix with
  | none => .error (.unsupported suffix)
  | some format =>
      match host.read path with
      | .error fault => .error (.unreadable path fault)
      | .ok text => (format.decode text).mapError (.undecodable format)

end Host

end Promptline
