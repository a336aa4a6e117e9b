import WorkflowQueue.Client.Error
import WorkflowQueue.Config
import WorkflowQueue.Page
import WorkflowQueue.Text.Split

namespace WorkflowQueue.CommandLine

/-!
# Failures of the program

What is written when a command could not be carried out: the failure itself and
below it, indented, what lies behind it. Several causes are numbered.
-/

/-- Why a command could not be carried out. -/
inductive Failure where
  | badSettings (error : Config.InvalidNumber)
  | noClient (error : QueueError)
  | noPage
  | refused (error : QueueError)

namespace Failure

/-- The wording of the failure itself. -/
def message :
    Failure →
    String
  | .badSettings _ => "invalid configuration"
  | .noClient _ => "failed to build queue client"
  | .noPage => PageNumber.zeroMessage
  | .refused error => error.message

/-- What lies behind the failure, from the outside in. -/
def causes :
    Failure →
    List String
  | .badSettings error => [error.message]
  | .noClient error => error.message :: error.causes
  | .noPage => []
  | .refused error => error.causes

/--
A text whose lines begin after a margin, the first one after a label as wide as
it.
-/
def indented
    (label margin : String)
    (text : String) :
    String :=
  let lines := (Text.splitOn '\n' text.toList).map String.ofList
  label ++ ("\n" ++ margin).intercalate lines ++ "\n"

/-- Causes in order, each with its number. -/
def numbered
    (number : Nat) :
    List String →
    String
  | [] => ""
  | cause :: rest =>
      let digits := toString number
      let padding := String.ofList (List.replicate (5 - digits.length) ' ')
      indented (padding ++ digits ++ ": ") "       " cause ++
        numbered (number + 1) rest

/-- The list of causes, if there are any. -/
def causesText :
    List String →
    String
  | [] => ""
  | [cause] => "\nCaused by:\n" ++ indented "    " "    " cause
  | causes => "\nCaused by:\n" ++ numbered 0 causes

/-- What is written about a failure. -/
def text
    (failure : Failure) :
    String :=
  "Error: " ++ failure.message ++ "\n" ++ causesText failure.causes

end Failure

end WorkflowQueue.CommandLine
