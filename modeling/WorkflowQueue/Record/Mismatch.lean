import WorkflowQueue.Json.Writer
import WorkflowQueue.Text.Quoted
import WorkflowQueue.Time.Rfc3339

namespace WorkflowQueue

/-!
# Values that are not the wanted record

The ways in which a JSON value can fail to be a record, with their wording. A
message names what was found and what was wanted.
-/

/-- What a place in a record has to hold. -/
inductive Wanted where
  | text
  | sequence
  | timestamp
  | record (name : String)
  deriving DecidableEq

/-- The wording of what is wanted. -/
def Wanted.message :
    Wanted →
    String
  | .text => "a string"
  | .sequence => "a sequence"
  | .timestamp => "an RFC 3339 formatted date and time string"
  | .record name => "struct " ++ name

/-- Why a value is not the wanted one. -/
inductive Mismatch where
  | wrongType (found : Json) (wanted : Wanted)
  | missingField (name : String)
  | tooFewElements (length : Nat) (record : String) (size : Nat)
  | tooManyElements (length : Nat)
  | badTimestamp (fault : Rfc3339.Fault)

/-- The wording of a value that was found. -/
def foundMessage :
    Json →
    String
  | .null => "null"
  | .bool true => "boolean `true`"
  | .bool false => "boolean `false`"
  | .integer number =>
      "integer `" ++ String.ofList (Json.integerText number.value) ++ "`"
  | .float number =>
      "floating point `" ++ String.ofList (Json.floatText number) ++ "`"
  | .string text => "string " ++ Text.quoted text
  | .array _ => "sequence"
  | .object _ => "map"

/-- The wording of a mismatch. -/
def Mismatch.message :
    Mismatch →
    String
  | .wrongType found wanted =>
      "invalid type: " ++ foundMessage found ++ ", expected " ++ wanted.message
  | .missingField name => "missing field `" ++ name ++ "`"
  | .tooFewElements length record size =>
      "invalid length " ++ toString length ++ ", expected struct " ++ record ++
        " with " ++ toString size ++ " elements"
  | .tooManyElements length =>
      "invalid length " ++ toString length ++
        ", expected fewer elements in array"
  | .badTimestamp fault => fault.message

end WorkflowQueue
