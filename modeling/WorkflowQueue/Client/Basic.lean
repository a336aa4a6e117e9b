import WorkflowQueue.Client.Catalog
import WorkflowQueue.Client.Watch

namespace WorkflowQueue

/-!
# The client

One handle for every operation over one transport, with the waits that its
watches use. The client keeps no state of its own, so a list of calls is made by
handing what one call left to the next.
-/

/-- Every operation over one transport. -/
structure Client (Message Response : Type) where
  transport : Transport Message Response
  backoff : Backoff

namespace Client

/-- A client with the standard waits. -/
def ofTransport
    (transport : Transport Message Response) :
    Client Message Response where
  transport := transport
  backoff := Backoff.standard

/-- The same client with other waits. -/
def withBackoff
    (client : Client Message Response)
    (backoff : Backoff) :
    Client Message Response :=
  { client with backoff := backoff }

/-- Queue a workflow. -/
def enqueue
    (client : Client Message Response)
    (workflowId : String)
    (session : Session Response) :
    Run Message Response (Except QueueError WorkflowStatus) :=
  Submission.enqueue client.transport workflowId session

/-- One execution in detail. -/
def status
    (client : Client Message Response)
    (executionId : String)
    (session : Session Response) :
    Run Message Response (Except QueueError WorkflowStatus) :=
  Statuses.get client.transport executionId session

/-- One page of the listing. -/
def statusPage
    (client : Client Message Response)
    (page : PageNumber)
    (session : Session Response) :
    Run Message Response (Except QueueError (List WorkflowStatus)) :=
  Statuses.getPage client.transport page session

/-- All executions in page order. -/
def allStatuses
    (client : Client Message Response)
    (session : Session Response) :
    Run Message Response (Except QueueError (List WorkflowStatus)) :=
  Statuses.all client.transport session

/-- Ask for a change of state. -/
def act
    (client : Client Message Response)
    (executionId : String)
    (action : StatusAction)
    (session : Session Response) :
    Run Message Response (Except QueueError Unit) :=
  Statuses.act client.transport executionId action session

/-- All playbooks. -/
def playbooks
    (client : Client Message Response)
    (session : Session Response) :
    Run Message Response (Except QueueError (List Playbook)) :=
  Catalog.playbooks client.transport session

/-- Watch an execution until it ends, with the client's own waits. -/
def watch
    (client : Client Message Response)
    (executionId : String)
    (cancellation : Watch.Cancellation)
    (session : Session Response) :
    Run Message Response Watch.Outcome :=
  Watch.untilTerminal client.transport client.backoff cancellation
    executionId session

/-! ## Calls as data -/

/-- One call of a client. -/
inductive Call where
  | enqueue (workflowId : String)
  | status (executionId : String)
  | statusPage (page : PageNumber)
  | allStatuses
  | pageStream (start : PageNumber) (limit : Option Nat)
  | act (executionId : String) (action : StatusAction)
  | playbooks
  | watch (executionId : String) (cancellation : Watch.Cancellation)

/-- What a call gives. -/
inductive Answer where
  | status (result : Except QueueError WorkflowStatus)
  | statuses (result : Except QueueError (List WorkflowStatus))
  | taken (result : Statuses.PageStream.Taken)
  | done (result : Except QueueError Unit)
  | playbooks (result : Except QueueError (List Playbook))
  | watched (result : Watch.Outcome)

/--
Whether a call goes through the client or straight to the part that does it.
-/
inductive Route where
  | client
  | part
  deriving DecidableEq

/-- Take a limited or unlimited number of pages from a stream. -/
def takePages
    (client : Client Message Response)
    (start : PageNumber)
    (limit : Option Nat)
    (session : Session Response) :
    Run Message Response Statuses.PageStream.Taken :=
  match limit with
  | some limit =>
      Statuses.PageStream.take client.transport limit (.start start) session
  | none => Statuses.PageStream.drain client.transport (.start start) session

/-- Make one call. -/
def perform
    (client : Client Message Response)
    (route : Route)
    (call : Call)
    (session : Session Response) :
    Run Message Response Answer :=
  match route, call with
  | .client, .enqueue workflowId =>
      (client.enqueue workflowId session).map .status
  | .part, .enqueue workflowId =>
      (Submission.enqueue client.transport workflowId session).map .status
  | .client, .status executionId =>
      (client.status executionId session).map .status
  | .part, .status executionId =>
      (Statuses.get client.transport executionId session).map .status
  | .client, .statusPage page =>
      (client.statusPage page session).map .statuses
  | .part, .statusPage page =>
      (Statuses.getPage client.transport page session).map .statuses
  | .client, .allStatuses =>
      (client.allStatuses session).map .statuses
  | .part, .allStatuses =>
      (Statuses.all client.transport session).map .statuses
  | _, .pageStream start limit =>
      (client.takePages start limit session).map .taken
  | .client, .act executionId action =>
      (client.act executionId action session).map .done
  | .part, .act executionId action =>
      (Statuses.act client.transport executionId action session).map .done
  | .client, .playbooks =>
      (client.playbooks session).map .playbooks
  | .part, .playbooks =>
      (Catalog.playbooks client.transport session).map .playbooks
  | .client, .watch executionId cancellation =>
      (client.watch executionId cancellation session).map .watched
  | .part, .watch executionId cancellation =>
      (Watch.untilTerminal client.transport client.backoff cancellation
        executionId session).map .watched

/--
Make calls one after another, each in the session that the one before left.
-/
def performAll
    (client : Client Message Response) :
    List (Route × Call) →
    Session Response →
    List (Run Message Response Answer)
  | [], _ => []
  | (route, call) :: rest, session =>
      let run := client.perform route call session
      run :: client.performAll rest run.session

end Client

end WorkflowQueue
