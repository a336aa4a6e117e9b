import WorkflowQueue.Client.Scripted
import WorkflowQueue.Client.Statuses

namespace WorkflowQueue

/-!
# What a script answers

A script is used up from its head, one reply for every request, and every
request after the last reply is refused. The replies are therefore counted from
zero, with the refusal standing at every position past the end; a request is one
step along that sequence.
-/

namespace Scripted

/-- The reply to the request at a position of a script, counted from zero. -/
def reply
    (replies : List Reply)
    (position : Nat) :
    Reply :=
  replies.getD position { delay := 0, outcome := .error exhausted }

/--
What one request leaves of a script begins with the reply after the first.
-/
theorem reply_tail
    (replies : List Reply)
    (position : Nat) :
    reply replies.tail position = reply replies (position + 1) := by
  cases replies with
  | nil =>
      rfl
  | cons head rest =>
      rfl

/-- What some requests leave of a script begins with the reply after theirs. -/
theorem reply_drop
    (replies : List Reply)
    (used position : Nat) :
    reply (replies.drop used) position = reply replies (used + position) := by
  simp [reply, List.getD_eq_getElem?_getD]

/-- A request is sent at once, exactly as it is, and takes the first reply. -/
theorem exchange_eq
    (request : Request)
    (session : Session Reply) :
    transport.exchange request session = {
      result := (reply session.replies 0).outcome
      sent := [{ instant := session.now, message := request }]
      events := []
      session := {
        replies := session.replies.tail
        now := session.now + (reply session.replies 0).delay
      }
    } := by
  rcases session with ⟨replies, now⟩
  cases replies with
  | nil =>
      rfl
  | cons head rest =>
      rfl

end Scripted

namespace Submission

/-- The route of executions is a single segment. -/
theorem splitPath_queuePath :
    Request.splitPath queuePath = ["workflowqueue"] := by
  decide +kernel

end Submission

namespace Statuses

open Scripted (reply)

variable
  (page : PageNumber)
  (executionId : String)
  (session : Session Reply)

@[simp] theorem getPage_result :
    (getPage Scripted.transport page session).result =
      Transport.decodeReply (reply session.replies 0).outcome := by
  simp [getPage, Transport.fetch, Scripted.exchange_eq]

@[simp] theorem getPage_sent :
    (getPage Scripted.transport page session).sent =
      [{ instant := session.now, message := pageRequest page }] := by
  simp [getPage, Transport.fetch, Scripted.exchange_eq]

@[simp] theorem getPage_events :
    (getPage Scripted.transport page session).events =
      match Transport.decodeReply (α := List WorkflowStatus)
          (reply session.replies 0).outcome with
      | .ok statuses => [.fetchedPage page statuses.length]
      | .error _ => [] := by
  rw [getPage, Transport.fetch, Scripted.exchange_eq]
  rfl

@[simp] theorem getPage_session :
    (getPage Scripted.transport page session).session = {
      replies := session.replies.tail
      now := session.now + (reply session.replies 0).delay
    } := by
  simp [getPage, Transport.fetch, Scripted.exchange_eq]

@[simp] theorem get_result :
    (get Scripted.transport executionId session).result =
      Transport.decodeReply (reply session.replies 0).outcome := by
  simp [get, Transport.fetch, Scripted.exchange_eq]

@[simp] theorem get_sent :
    (get Scripted.transport executionId session).sent =
      [{ instant := session.now, message := statusRequest executionId }] := by
  simp [get, Transport.fetch, Scripted.exchange_eq]

@[simp] theorem get_events :
    (get Scripted.transport executionId session).events =
      [.fetchingStatus executionId] := by
  simp [get, Transport.fetch, Scripted.exchange_eq]

@[simp] theorem get_session :
    (get Scripted.transport executionId session).session = {
      replies := session.replies.tail
      now := session.now + (reply session.replies 0).delay
    } := by
  simp [get, Transport.fetch, Scripted.exchange_eq]

end Statuses

end WorkflowQueue
