import WorkflowQueue.Client.Exchange

namespace WorkflowQueue

/-!
# The scripted transport

A transport without a wire: requests are recorded as they are, and every reply
of the script is used as it stands.
-/

namespace Scripted

/-- What comes of a request for which the script holds no reply. -/
def exhausted : QueueError :=
  .api 599 "no scripted response left"

/-- The transport that plays a script of replies. -/
def transport : Transport Request Reply where
  announce _ := []
  prepare request := .ok request
  answer _ reply := reply
  unanswered _ := exhausted

end Scripted

end WorkflowQueue
