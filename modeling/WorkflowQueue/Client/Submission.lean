import WorkflowQueue.Client.Exchange
import WorkflowQueue.Record.WorkflowStatus

namespace WorkflowQueue.Submission

/-!
# Queuing workflows

Every call queues the workflow once more.
-/

/-- The route of executions. -/
def queuePath : String := "/workflowqueue"

/-- The body that names a workflow to queue. -/
def body
    (workflowId : String) :
    Json :=
  .object [("workflow_id", .string workflowId)]

/-- The request that queues a workflow. -/
def request
    (workflowId : String) :
    Request :=
  Request.post queuePath (body workflowId)

/-- Queue a workflow and return the first status of its new execution. -/
def enqueue
    (transport : Transport Message Response)
    (workflowId : String)
    (session : Session Response) :
    Run Message Response (Except QueueError WorkflowStatus) :=
  (transport.fetch (request workflowId) session).report fun
    | .ok status => [.queued workflowId status.executionId status.status]
    | .error _ => []

end WorkflowQueue.Submission
