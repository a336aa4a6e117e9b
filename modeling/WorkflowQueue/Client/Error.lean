import WorkflowQueue.Record.Envelope

namespace WorkflowQueue

/-!
# Errors of the client

Everything that can go wrong in an operation: nothing came back, the queue
answered with a refusal, the answer could not be read, or the queue's address is
no address. Nothing is retried, so every error reaches the caller as it arose.
-/

/-- Why no complete answer came back. -/
inductive RequestFailure where
  | unreachable (url : String)
  | closed (url : String)
  | timedOut (url : String)
  | cutOff
  | badHeader
  | badAddress (url : String)
  | badRedirect (reason : String)
  | otherScheme (url : String)
  | tooManyRedirects (url : String)
  deriving DecidableEq

namespace RequestFailure

/-- The wording of the failure itself. -/
def message :
    RequestFailure →
    String
  | .unreachable url => "error sending request for url (" ++ url ++ ")"
  | .closed url => "error sending request for url (" ++ url ++ ")"
  | .timedOut url => "error sending request for url (" ++ url ++ ")"
  | .cutOff => "error decoding response body"
  | .badHeader => "builder error"
  | .badAddress url => "builder error for url (" ++ url ++ ")"
  | .badRedirect _ => "builder error"
  | .otherScheme url => "builder error for url (" ++ url ++ ")"
  | .tooManyRedirects url => "error following redirect for url (" ++ url ++ ")"

/-- What lies behind the failure, from the outside in. -/
def reasons :
    RequestFailure →
    List String
  | .unreachable _ => [
      "client error (Connect)",
      "tcp connect error",
      "Network is unreachable (os error 101)"
    ]
  | .closed _ => [
      "client error (SendRequest)",
      "connection closed before message completed"
    ]
  | .timedOut _ => ["operation timed out"]
  | .cutOff => [
      "request or response body error",
      "error reading a body from connection",
      "end of file before message length reached"
    ]
  | .badHeader => ["failed to parse header value"]
  | .badAddress _ => ["Parsed Url is not a valid Uri"]
  | .badRedirect reason => [reason]
  | .otherScheme _ => ["URL scheme is not allowed"]
  | .tooManyRedirects _ => ["too many redirects"]

end RequestFailure

/-- An error of a client operation. -/
inductive QueueError where
  | request (failure : RequestFailure)
  | api (status : Nat) (body : String)
  | decode (error : DecodeError)
  | invalidUrl (url reason : String)

namespace QueueError

/-- The wording of an error. -/
def message :
    QueueError →
    String
  | .request failure => "HTTP request failed: " ++ failure.message
  | .api status body => "Queue API error (" ++ toString status ++ "): " ++ body
  | .decode error => "Failed to decode response: " ++ error.message
  | .invalidUrl url reason => "Invalid API URL: " ++ url ++ ": " ++ reason

/-- The status of an answer that was a refusal. -/
def status? :
    QueueError →
    Option Nat
  | .api status _ => some status
  | _ => none

/-- What lies behind an error, from the outside in. -/
def causes :
    QueueError →
    List String
  | .request failure => failure.message :: failure.reasons
  | .decode error => [error.message]
  | .api _ _ => []
  | .invalidUrl _ _ => []

end QueueError

end WorkflowQueue
