import WorkflowQueue.Client.Error
import WorkflowQueue.Page
import WorkflowQueue.Record.State
import WorkflowQueue.Request

namespace WorkflowQueue

/-!
# Events

What the client reports while it works. An event has a level, the place it comes
from, a message and named values; numbers stay numbers, everything else is text.
-/

/-- How important an event is. -/
inductive Level where
  | debug
  | info
  | warn
  deriving DecidableEq

/-- The name of a level. -/
def Level.text :
    Level →
    String
  | .debug => "DEBUG"
  | .info => "INFO"
  | .warn => "WARN"

/-- The name of a method. -/
def Method.text :
    Method →
    String
  | .get => "Get"
  | .post => "Post"
  | .patch => "Patch"

/-- Something that the client reports. -/
inductive Event where
  | sending (method : Method) (url : String)
  | queued (workflowId executionId : String) (status : ExecutionState)
  | fetchingStatus (executionId : String)
  | fetchedPage (page : PageNumber) (count : Nat)
  | aggregated (pages : UInt32) (count : Nat)
  | changeRequested (executionId : String) (action : StatusAction)
  | fetchedPlaybooks (count : Nat)
  | pollingCancelled (executionId : String) (attempt : UInt32)
  | reachedTerminal (executionId : String) (attempt : UInt32)
      (status : ExecutionState)
  | stillInProgress
      (executionId : String)
      (attempt : UInt32)
      (status : ExecutionState)
      (delayMilliseconds : UInt64)
  | pollFailed (executionId : String) (attempt : UInt32) (error : String)

namespace Event

/-- The level of an event. -/
def level :
    Event →
    Level
  | .sending .. => .debug
  | .queued .. => .info
  | .fetchingStatus .. => .debug
  | .fetchedPage .. => .debug
  | .aggregated .. => .info
  | .changeRequested .. => .info
  | .fetchedPlaybooks .. => .debug
  | .pollingCancelled .. => .info
  | .reachedTerminal .. => .info
  | .stillInProgress .. => .debug
  | .pollFailed .. => .warn

/-- The place that an event comes from. -/
def target :
    Event →
    String
  | .sending .. => "wfqueue_client::http"
  | .queued .. => "wfqueue_client::submitter"
  | .fetchingStatus .. => "wfqueue_client::aggregator"
  | .fetchedPage .. => "wfqueue_client::aggregator"
  | .aggregated .. => "wfqueue_client::aggregator"
  | .changeRequested .. => "wfqueue_client::aggregator"
  | .fetchedPlaybooks .. => "wfqueue_client::playbooks"
  | .pollingCancelled .. => "wfqueue_client::poll"
  | .reachedTerminal .. => "wfqueue_client::poll"
  | .stillInProgress .. => "wfqueue_client::poll"
  | .pollFailed .. => "wfqueue_client::poll"

/-- The message of an event. -/
def message :
    Event →
    String
  | .sending .. => "Sending queue API request"
  | .queued .. => "Workflow queued"
  | .fetchingStatus .. => "Fetching execution status"
  | .fetchedPage .. => "Fetched status page"
  | .aggregated .. => "Aggregated execution statuses"
  | .changeRequested .. => "Requested execution status change"
  | .fetchedPlaybooks .. => "Fetched playbooks"
  | .pollingCancelled .. => "Polling cancelled"
  | .reachedTerminal .. => "Execution reached terminal state"
  | .stillInProgress .. => "Execution still in progress"
  | .pollFailed .. => "Status poll failed"

/-- A count as a value of an event. -/
def ofCount
    (count : Nat) :
    Json :=
  Json.ofWord (UInt64.ofNat count)

/-- The named values of an event. -/
def fields :
    Event →
    List (String × Json)
  | .sending method url =>
      [("method", .string method.text), ("url", .string url)]
  | .queued workflowId executionId status => [
      ("workflow_id", .string workflowId),
      ("execution_id", .string executionId),
      ("status", .string status.token)
    ]
  | .fetchingStatus executionId => [("execution_id", .string executionId)]
  | .fetchedPage page count =>
      [("page", ofCount page.number), ("count", ofCount count)]
  | .aggregated pages count => [
      ("pages", Json.ofWord pages.toUInt64),
      ("count", ofCount count)
    ]
  | .changeRequested executionId action => [
      ("execution_id", .string executionId),
      ("action", .string action.token)
    ]
  | .fetchedPlaybooks count => [("count", ofCount count)]
  | .pollingCancelled executionId attempt => [
      ("execution_id", .string executionId),
      ("attempt", Json.ofWord attempt.toUInt64)
    ]
  | .reachedTerminal executionId attempt status => [
      ("execution_id", .string executionId),
      ("attempt", Json.ofWord attempt.toUInt64),
      ("status", .string status.token)
    ]
  | .stillInProgress executionId attempt status delayMilliseconds => [
      ("execution_id", .string executionId),
      ("attempt", Json.ofWord attempt.toUInt64),
      ("status", .string status.token),
      ("delay_ms", Json.ofWord delayMilliseconds)
    ]
  | .pollFailed executionId attempt error => [
      ("execution_id", .string executionId),
      ("attempt", Json.ofWord attempt.toUInt64),
      ("error", .string error)
    ]

end Event

end WorkflowQueue
