import WorkflowQueue.Json.Reader
import WorkflowQueue.Record.Wire

namespace WorkflowQueue

/-!
# Response bodies

A response carries its payload bare or as the only member, `data`, of an object.
A body is read completely as JSON before the wrapper is taken off and the
payload is read as a record, so a fault in the text always wins.
-/

/-- Take one wrapper off. An object with any other member is no wrapper. -/
def unwrapEnvelope :
    Json →
    Json
  | .object [("data", payload)] => payload
  | value => value

/-- Why a body is not the wanted record. -/
inductive DecodeError where
  | badText (error : Json.SyntaxError)
  | badValue (mismatch : Mismatch)

/-- The wording of a decoding error. -/
def DecodeError.message :
    DecodeError →
    String
  | .badText error => error.message
  | .badValue mismatch => mismatch.message

/-- Read a body as a record. -/
def decode
    [Wire α]
    (body : String) :
    Except DecodeError α :=
  match Json.parse body with
  | .error error => .error (.badText error)
  | .ok value =>
      match Wire.ofJson (unwrapEnvelope value) with
      | .error mismatch => .error (.badValue mismatch)
      | .ok record => .ok record

end WorkflowQueue
