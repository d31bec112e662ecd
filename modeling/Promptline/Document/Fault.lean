import Promptline.Number.Limit

/-!
# Undecodable text

Why a text is no document of its notation, and what no reader of files gets over.
-/

namespace Promptline

/-- Why a text cannot be decoded. -/
inductive DecodeFault
  /-- The text breaks the rules of its notation. -/
  | malformed
  /-- An integer has too many digits. -/
  | tooLong (limit : DigitLimit)
  /-- Lists and tables are nested more deeply than the calls that are left allow. -/
  | tooDeep
  deriving DecidableEq, Repr

/-- What breaks a run off: nothing stands in for what was to be read or written. -/
inductive Breakdown
  /-- An integer has more digits than are read or written. -/
  | tooLong (limit : DigitLimit)
  /-- A file is no text. -/
  | notText
  /-- Values are nested more deeply than the calls that are left allow. -/
  | tooDeep
  deriving DecidableEq, Repr

namespace Breakdown

/-- Text of the problem. -/
def message : Breakdown → String
  | tooLong limit => limit.message
  | notText => "'utf-8' codec can't decode bytes"
  | tooDeep => "maximum recursion depth exceeded"

end Breakdown

end Promptline
