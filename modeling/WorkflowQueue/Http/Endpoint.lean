import WorkflowQueue.Client.Basic
import WorkflowQueue.Client.Scripted
import WorkflowQueue.Config
import WorkflowQueue.Http.Course
import WorkflowQueue.Json.Writer
import WorkflowQueue.Text.Base64
import WorkflowQueue.Url.Reader

namespace WorkflowQueue.Http

/-!
# The queue behind an address

An endpoint is the root of a queue, with a token if one is used, seen over a
network that may be out of reach. It is a transport: every request becomes one
message, redirects are followed from there, and what comes back in the end is
either the body of a success or an error.
-/

/--
What an endpoint finds around it: whether servers can be reached at all, and the
readers of the character sets that have no table in `Text.Charset`.
-/
structure Network where
  isReachable : Bool
  legacy : Text.Legacy

/-- A network in which servers can be reached. -/
def Network.reachable : Network where
  isReachable := true
  legacy := .absent

/-- A network that is out of reach. -/
def Network.unreachable : Network where
  isReachable := false
  legacy := .absent

/-- A queue that is reached over HTTP. -/
structure Endpoint where
  root : Url
  token : Option String
  timeout : Option Duration
  network : Network

namespace Endpoint

/-- The queue at an address. -/
def ofText
    (network : Network)
    (apiUrl : String) :
    Except QueueError Endpoint :=
  match Url.ofText apiUrl with
  | .error fault => .error (.invalidUrl apiUrl fault.message)
  | .ok root =>
      .ok { root := root, token := none, timeout := none, network := network }

/-- The same queue with a token sent along with every request. -/
def withToken
    (endpoint : Endpoint)
    (token : String) :
    Endpoint :=
  { endpoint with token := some token }

/-- The queue that settings ask for. -/
def ofConfig
    (network : Network)
    (config : Config) :
    Except QueueError Endpoint :=
  match ofText network config.apiUrl with
  | .error error => .error error
  | .ok endpoint =>
      .ok {
        endpoint with
        token := config.apiToken
        timeout := some config.requestTimeout
      }

/-- The address of a request's segments below the root. -/
def urlFor
    (endpoint : Endpoint)
    (segments : List String) :
    Url :=
  endpoint.root.withSegments segments

/-! ## Authentication -/

/-- Whether a header may hold a character. -/
def isHeaderChar
    (c : Char) :
    Bool :=
  c = '\t' || (0x20 ≤ c.toNat && c.toNat ≠ 0x7F)

/-- A header value as it arrives: blanks at its end do not count. -/
def arrivingValue
    (value : List Char) :
    String :=
  String.ofList (value.reverse.dropWhile fun c => c = ' ' || c = '\t').reverse

/--
The header value of a token, unless the token holds what no header may hold.
-/
def bearer?
    (token : String) :
    Option String :=
  if token.toList.all isHeaderChar then
    some (arrivingValue ("Bearer ".toList ++ token.toList))
  else none

/-- The text that escapes stand for, unless it is no text. -/
def plain?
    (escaped : List Char) :
    Option (List Char) :=
  Text.readUtf8? (Url.decode escaped)

/-- The user of an address: name and password without escapes. -/
structure User where
  name : List Char
  password : Option (List Char)
  deriving DecidableEq

/-- The user that an address names, if it names one. -/
def userOf?
    (info : Url.UserInfo) :
    Option User :=
  match plain? info.name with
  | none => none
  | some name =>
      let password := info.password.bind plain?
      if name.isEmpty && password.isNone then none
      else some { name := name, password := password }

/-- The header value of a user. -/
def basic
    (user : User) :
    String :=
  let pair := user.name ++ ':' :: user.password.getD []
  String.ofList ("Basic ".toList ++ Text.base64 (Text.utf8 pair))

/-! ## Messages -/

/-- The values of the authorization header of every request. -/
def authorization?
    (endpoint : Endpoint) :
    Option (List String) :=
  let users := ((endpoint.root.userInfo.bind userOf?).map basic).toList
  match endpoint.token with
  | none => some users
  | some token => (bearer? token).map fun value => users ++ [value]

/--
The address that a request is sent to. A user that goes into a header is taken
out of it.
-/
def addressOf
    (endpoint : Endpoint)
    (request : Request) :
    Url :=
  let url := (endpoint.urlFor request.segments).withParameters request.query
  if (endpoint.root.userInfo.bind userOf?).isSome then
    url.withoutUserInfo else url

/-- The message of a request, or the error that keeps it from arriving. -/
def message
    (endpoint : Endpoint)
    (request : Request) :
    Except QueueError Message :=
  let address := endpoint.addressOf request
  match endpoint.authorization? with
  | none => .error (.request .badHeader)
  | some authorization =>
      if !isSendable address then
        .error (.request (.badAddress address.text))
      else if !endpoint.network.isReachable then
        .error (.request (.unreachable address.text))
      else
        .ok {
          method := request.method
          target := String.ofList address.targetText
          host := [String.ofList address.authorityText]
          authorization := authorization
          contentType :=
            if request.body.isSome then ["application/json"] else []
          body := (request.body.map Json.compact).getD ""
          address := address
        }

/--
What comes of the response that ends an exchange. An endpoint waits for a server
that never ends its response until its time is up; where it has set itself no
time, a real call would not end, and here it ends at once.
-/
def replyOf
    (endpoint : Endpoint)
    (message : Message)
    (hop : Hop) :
    Reply :=
  match hop.earlyEnd with
  | some .close => {
      delay := 0
      outcome := .error (.request (.closed message.address.text))
    }
  | some .hang => {
      delay := (endpoint.timeout.map Duration.waitMilliseconds).getD 0
      outcome := .error (.request (.timedOut message.address.text))
    }
  | _ => { delay := 0, outcome := hop.outcome endpoint.network.legacy }

/--
What comes of a message and of those that redirects add to it. An error names
the address of the first.
-/
def reply
    (endpoint : Endpoint)
    (message : Message)
    (response : Response) :
    Reply :=
  match (message.course response).ending with
  | .response hop => endpoint.replyOf message hop
  | .blocked failure => { delay := 0, outcome := .error (.request failure) }
  | .unanswered => { delay := 0, outcome := .error Scripted.exhausted }

/--
The endpoint as a transport. One exchange takes one response of the session, in
which the responses to all messages of the exchange are. The servers of a
session are taken to answer like a script: what they have no response for, they
refuse with the status 599.
-/
def transport
    (endpoint : Endpoint) :
    Transport Message Response where
  announce request :=
    [.sending request.method (endpoint.urlFor request.segments).text]
  prepare := endpoint.message
  answer := endpoint.reply
  unanswered _ := Scripted.exhausted

end Endpoint

/-- The client that settings ask for. -/
def clientOfConfig
    (network : Network)
    (config : Config) :
    Except QueueError (Client Message Response) :=
  match Endpoint.ofConfig network config with
  | .error error => .error error
  | .ok endpoint =>
      .ok ((Client.ofTransport endpoint.transport).withBackoff config.backoff)

end WorkflowQueue.Http
