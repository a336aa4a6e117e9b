import WorkflowQueue.Http.Message
import WorkflowQueue.Url.Reference

namespace WorkflowQueue.Http

/-!
# Redirects

A response may lead to another address, and a client follows it there on its
own: it sends the request once more, and what comes back takes the place of the
response. The course of an exchange is what is sent on that way and how it ends.
A body is not sent again where a submission is answered elsewhere or the answer
is to be looked up, and what authorizes a request stays with the server that it
was meant for.
-/

/-- The number of redirects that are followed in one exchange. -/
def redirectLimit : Nat := 10

/--
Whether an address can be asked for: its host holds no stray character and it is
not too long.
-/
def Endpoint.isSendable
    (url : Url) :
    Bool :=
  let stray := ['"', '`', '\x7b', '\x7d']
  let hostFits :=
    match url.host with
    | .domain name => name.all fun c => !stray.contains c
    | _ => true
  hostFits && url.text.length ≤ 65534

/--
Whether a response leads elsewhere. How much of its body arrives is all one.
-/
def Hop.redirects
    (hop : Hop) :
    Bool :=
  [301, 302, 303, 307, 308].contains hop.status &&
    hop.earlyEnd ≠ some .close && hop.earlyEnd ≠ some .hang &&
    (hop.header? "location").isSome

/--
Where a response leads: nowhere, or to a message that may not be possible.
-/
inductive Direction where
  | here
  | blocked (failure : RequestFailure)
  | onward (message : Message)

/-- The message to another address that a status asks for. -/
def Message.redirected
    (message : Message)
    (status : Nat)
    (address : Url) :
    Message :=
  let asksAnew :=
    status = 303 ||
      (message.method = .post && (status = 301 || status = 302))
  {
    method := if asksAnew then .get else message.method
    target := String.ofList address.targetText
    host := [String.ofList address.authorityText]
    authorization :=
      if address.place = message.address.place then message.authorization
      else []
    contentType := if asksAnew then [] else message.contentType
    body := if asksAnew then "" else message.body
    address := address
  }

/--
Where a response to a message leads, after some redirects of the exchange.
-/
def Message.direction
    (message : Message)
    (followed : Nat)
    (hop : Hop) :
    Direction :=
  if !hop.redirects then .here
  else
    let location := (hop.header? "location").getD ""
    match message.address.named? location.toList with
    | none => .here
    | some (.error .wrongScheme) =>
        if followed < redirectLimit then .blocked (.otherScheme location)
        else .blocked (.tooManyRedirects message.address.text)
    | some (.error fault) => .blocked (.badRedirect fault.message)
    | some (.ok address) =>
        if !Endpoint.isSendable address then .here
        else if followed < redirectLimit then
          .onward (message.redirected hop.status address)
        else .blocked (.tooManyRedirects message.address.text)

/-- How an exchange ends: with a response, on the way to one, or without one. -/
inductive Ending where
  | response (hop : Hop)
  | blocked (failure : RequestFailure)
  | unanswered
  deriving DecidableEq

/-- The messages that follow the first one of an exchange, and how it ends. -/
structure Course where
  onward : List Message
  ending : Ending
  deriving DecidableEq

/-- A course with one more message in front. -/
def Course.preceded
    (message : Message)
    (course : Course) :
    Course where
  onward := message :: course.onward
  ending := course.ending

/--
The course from a message on, with what comes back to it and to the others.
-/
def Message.courseFrom
    (followed : Nat)
    (message : Message) :
    List Hop →
    Course
  | [] => { onward := [], ending := .unanswered }
  | hop :: rest =>
      match message.direction followed hop with
      | .here => { onward := [], ending := .response hop }
      | .blocked failure => { onward := [], ending := .blocked failure }
      | .onward next => (next.courseFrom (followed + 1) rest).preceded next

/-- The course of an exchange that begins with a message. -/
def Message.course
    (message : Message)
    (response : Response) :
    Course :=
  message.courseFrom 0 (response.toHop :: response.onward)

/-- All messages of an exchange, as servers receive them. -/
def Message.trail
    (message : Message)
    (response : Response) :
    List Message :=
  message :: (message.course response).onward

end WorkflowQueue.Http
