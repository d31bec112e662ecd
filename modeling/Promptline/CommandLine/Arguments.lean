import Promptline.Entries
import Promptline.Number.Read
import Promptline.Text.Case

/-!
# Arguments

Arguments are options and operands. An option is a flag, or takes a value: the next argument, or
what is glued to its name. A double hyphen ends the options.
-/

namespace Promptline.CommandLine

/-- An option that arguments may hold. -/
structure OptionForm where
  /-- Long name. -/
  name : String
  /-- Letter of the short spelling, if there is one. -/
  letter : Option Char := none
  /-- Whether it is a flag, which can be negated and needs no value. -/
  isFlag : Bool := false
  deriving DecidableEq, Repr

/-- Why arguments are refused. -/
inductive ArgumentFault
  /-- An option lacks its value. -/
  | noValue (option : String)
  /-- An option is given twice. -/
  | repeated (option : String)
  /-- The value of a flag is no truth value. -/
  | noTruth (option text : String)
  /-- The value of an option is not one of its choices. -/
  | noChoice (option text : String)
  /-- There is no such command. -/
  | unknownCommand (name : String)
  /-- There is no such option. -/
  | unknownOption (text : String)
  /-- An operand is missing. -/
  | missing (operand : String)
  /-- There is an operand too many. -/
  | surplus (text : String)
  deriving DecidableEq, Repr

namespace ArgumentFault

/-- Text of the problem. -/
def message : ArgumentFault → String
  | noValue option => "Option " ++ option ++ " needs a value"
  | repeated option => "Option " ++ option ++ " is given twice"
  | noTruth option text => "Option " ++ option ++ " cannot be " ++ text
  | noChoice option text => "Option " ++ option ++ " cannot be " ++ text
  | unknownCommand name => "Unknown command " ++ name
  | unknownOption text => "Unknown option " ++ text
  | missing operand => "Missing " ++ operand
  | surplus text => "Unexpected argument " ++ text

end ArgumentFault

/-- The argument after which nothing is an option. -/
def endOfOptions : String := "--"

/-- Whether an argument looks like an option. Negative numbers and a lone hyphen do not. -/
def looksLikeOption (argument : String) : Bool :=
  match argument.toList with
  | '-' :: rest => !rest.isEmpty && (Number.readFloat? argument.toList).isNone
  | _ => false

/-- An option as it was found: which one, the value glued to its name, and whether it was
negated. -/
structure OptionMatch where
  /-- The option. -/
  form : OptionForm
  /-- What is glued to the name. -/
  glued : Option String := none
  /-- Whether the name was negated. -/
  negated : Bool := false

/-- An argument up to an equals sign, and what follows the sign. -/
def cutAtSign (argument : List Char) : List Char × Option String :=
  let spelling := argument.takeWhile (· != '=')
  match argument.drop spelling.length with
  | _ :: value => (spelling, some (String.ofList value))
  | [] => (spelling, none)

namespace OptionForm

/-- Whether a spelling is the long or the short name. -/
def spells (form : OptionForm) (spelling : List Char) : Bool :=
  spelling == '-' :: '-' :: form.name.toList || form.letter.any fun c => spelling == ['-', c]

/-- Whether a spelling negates a flag. -/
def negates (form : OptionForm) (spelling : List Char) : Bool :=
  form.isFlag && spelling == "--no-".toList ++ form.name.toList

/-- An argument as this option. A value may follow the letter directly. -/
def match? (form : OptionForm) (argument : List Char) : Option OptionMatch :=
  let (spelling, glued) := cutAtSign argument
  if form.spells spelling then some { form := form, glued := glued }
  else if form.negates spelling then some { form := form, glued := glued, negated := true }
  else
    match argument with
    | '-' :: c :: value =>
        if form.letter = some c && !form.isFlag && !value.isEmpty then
          some { form := form, glued := some (String.ofList value) }
        else none
    | _ => none

end OptionForm

/-- Words for the truth values, in lower case. -/
def truthWords : List (String × Bool) := [
  ("yes", true), ("y", true), ("1", true), ("true", true), ("t", true),
  ("no", false), ("n", false), ("0", false), ("false", false), ("f", false)]

/-- Arguments as far as they have been read. -/
structure Reading where
  /-- The option that waits for its value. -/
  waiting : Option String := none
  /-- Options with their values; flags have their truth value as text. -/
  options : Entries String := []
  /-- Arguments that belong to no option. -/
  others : List String := []

namespace Reading

/-- Take the value of an option. -/
def give (reading : Reading) (option value : String) : Except ArgumentFault Reading :=
  if (Entries.get? option reading.options).isSome then .error (.repeated option)
  else .ok { reading with waiting := none, options := reading.options ++ [(option, value)] }

/-- Take an option. -/
def take (reading : Reading) (found : OptionMatch) : Except ArgumentFault Reading :=
  let name := found.form.name
  if found.form.isFlag then
    let text := found.glued.getD "true"
    match truthWords.lookup (Text.lower text) with
    | some truth => reading.give name (toString (truth != found.negated))
    | none => .error (.noTruth name text)
  else
    match found.glued with
    | some value => reading.give name value
    | none => .ok { reading with waiting := some name }

/-- Take an argument. -/
def step (forms : List OptionForm) (reading : Reading) (argument : String) :
    Except ArgumentFault Reading :=
  match reading.waiting with
  | some option =>
      if looksLikeOption argument then .error (.noValue option) else reading.give option argument
  | none =>
      let found := if looksLikeOption argument then
        forms.findSome? (·.match? argument.toList) else none
      match found with
      | some found => reading.take found
      | none => .ok { reading with others := reading.others ++ [argument] }

end Reading

/-- Arguments after the end of the options. -/
def afterOptions (arguments : List String) : List String :=
  (arguments.dropWhile (· != endOfOptions)).drop 1

/-- Read options from anywhere before the end of the options. -/
def readOptions (forms : List OptionForm) (arguments : List String) :
    Except ArgumentFault Reading := do
  let reading ← (arguments.takeWhile (· != endOfOptions)).foldlM (Reading.step forms) {}
  match reading.waiting with
  | some option => .error (.noValue option)
  | none => .ok reading

end Promptline.CommandLine
