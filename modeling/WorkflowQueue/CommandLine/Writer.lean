import WorkflowQueue.CommandLine.Level
import WorkflowQueue.Number.Decimal

namespace WorkflowQueue.CommandLine

/-!
# Writing a command line

Every request for a command has a written form with long options, each value
attached to its option, and with the operands after the separator. Such a form
can hold any text as a value or an operand. Options that belong to both levels
may be placed at either, in either order.
-/

/-- An option with its value attached. -/
def Setting.word
    (setting : Setting)
    (value : String) :
    String :=
  "--" ++ (Switch.setting setting).long ++ "=" ++ value

/-- An option without a value. -/
def Flag.word
    (flag : Flag) :
    String :=
  "--" ++ (Switch.flag flag).long

/-- The side of a command's name at which an option is written. -/
inductive Side where
  | before
  | after
  deriving DecidableEq

/--
Where the address and the token are written, and which of them comes first.
-/
structure Placement where
  apiUrl : Side
  token : Side
  tokenFirst : Bool
  deriving DecidableEq

/-- The word for an option that is given and placed at a side. -/
def optionWords
    (setting : Setting)
    (value : Option String)
    (place side : Side) :
    List String :=
  if place = side then (value.map setting.word).toList else []

namespace Command

/-- The options of a command itself. -/
def optionWords :
    Command →
    List String
  | .list _ true => [Flag.all.word]
  | .list page false =>
      [Setting.page.word (String.ofList (Decimal.text page.toNat))]
  | _ => []

end Command

namespace Arguments

/--
The options of both levels that are written at one side of the command's name.
-/
def optionWords
    (arguments : Arguments)
    (placement : Placement)
    (side : Side) :
    List String :=
  let apiUrl :=
    CommandLine.optionWords .apiUrl arguments.apiUrl placement.apiUrl side
  let token :=
    CommandLine.optionWords .token arguments.token placement.token side
  if placement.tokenFirst then token ++ apiUrl else apiUrl ++ token

/-- The written form of a request for a command. -/
def words
    (arguments : Arguments)
    (placement : Placement) :
    List String :=
  arguments.optionWords placement .before ++
    arguments.command.name.word ::
      (arguments.optionWords placement .after ++
          arguments.command.optionWords ++
        "--" :: arguments.command.operands)

end Arguments

end WorkflowQueue.CommandLine
