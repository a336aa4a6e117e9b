import WorkflowQueue.Client.Exchange
import WorkflowQueue.Record.Playbook

namespace WorkflowQueue.Catalog

/-!
# Listing playbooks

All playbooks arrive in one answer.
-/

/-- The request for the playbooks. -/
def request : Request :=
  Request.get "/playbooks"

/-- All playbooks. -/
def playbooks
    (transport : Transport Message Response)
    (session : Session Response) :
    Run Message Response (Except QueueError (List Playbook)) :=
  (transport.fetch request session).report fun
    | .ok playbooks => [.fetchedPlaybooks playbooks.length]
    | .error _ => []

end WorkflowQueue.Catalog
