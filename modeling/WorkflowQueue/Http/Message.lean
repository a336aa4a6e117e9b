import WorkflowQueue.Client.Event
import WorkflowQueue.Text.Charset
import WorkflowQueue.Url.Basic

namespace WorkflowQueue.Http

/-!
# HTTP messages

What a server receives for a request, and what it may send back. A response is
complete unless it ends early in one of three ways.
-/

/-- The name of a method on the wire. -/
def methodName :
    Method →
    String
  | .get => "GET"
  | .post => "POST"
  | .patch => "PATCH"

/--
A request as a server receives it. The address is the one that errors name.
-/
structure Message where
  method : Method
  target : String
  host : List String
  authorization : List String
  contentType : List String
  body : String
  address : Url
  deriving DecidableEq

/--
How a response ends early: without a reply, with no end in sight, or inside the
body.
-/
inductive EarlyEnd where
  | close
  | hang
  | truncate
  deriving DecidableEq

/-- What a server sends back to one message. -/
structure Hop where
  status : Nat
  headers : List (String × String)
  body : List UInt8
  earlyEnd : Option EarlyEnd
  deriving DecidableEq

/--
What servers send back to a request. A response that leads to another address is
followed there, and `onward` is what comes back to the messages that are sent on
that way, in order.
-/
structure Response extends Hop where
  onward : List Hop := []
  deriving DecidableEq

namespace Hop

/-- Whether a status means success. -/
def isSuccess
    (hop : Hop) :
    Bool :=
  200 ≤ hop.status && hop.status < 300

/-- Whether a status goes without a body. -/
def isBodiless
    (hop : Hop) :
    Bool :=
  hop.status = 204 || hop.status = 304

/-- The first header of a name, in any case. -/
def header?
    (hop : Hop)
    (name : String) :
    Option String :=
  (hop.headers.find? fun (key, _) =>
    key.toList.map Char.toLower = name.toList).map Prod.snd

/-- The text of the body, unless the body is cut off. -/
def text?
    (legacy : Text.Legacy)
    (hop : Hop) :
    Option String :=
  if hop.isBodiless then some ""
  else if hop.earlyEnd = some .truncate then none
  else some (Text.readBody legacy (hop.header? "content-type") hop.body)

/-- What a refusal says when its body is cut off. -/
def unreadable : String := "<unreadable body>"

/-- What a client makes of a response that has come. -/
def outcome
    (legacy : Text.Legacy)
    (hop : Hop) :
    Except QueueError String :=
  if hop.isSuccess then
    match hop.text? legacy with
    | some body => .ok body
    | none => .error (.request .cutOff)
  else .error (.api hop.status ((hop.text? legacy).getD unreadable))

end Hop

end WorkflowQueue.Http
