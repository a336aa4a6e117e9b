import WorkflowQueue.Proofs.Mirroring
import WorkflowQueue.Proofs.Pacing

namespace WorkflowQueue

/-!
# Calls that are one exchange

Five calls of a client ask the queue one thing each. Over any transport such a
call hands over exactly one request, ends in the error of the transport where
there is one, and otherwise depends on nothing but the body. `IsExchange` says
this of a run, `Client.Interface` lists the calls with their requests written
out, and `Client.perform_isExchange` joins the two.
-/

variable {Message Response α β : Type}

/-! ## One exchange -/

/--
A run that is one exchange of a request. A request that the transport does not
take leaves everything as it was; any other one is sent once, at once, and takes
the first reply. The result is `failure` of the error that was reported, or
`success` of the body that came.
-/
structure IsExchange
    (transport : Transport Message Response)
    (request : Request)
    (failure : QueueError → α)
    (success : String → α)
    (session : Session Response)
    (run : Run Message Response α) : Prop where
  refused :
    ∀ error, transport.prepare request = .error error →
      run.sent = [] ∧ run.session = session ∧ run.result = failure error
  sent :
    ∀ message, transport.prepare request = .ok message →
      run.sent = [{ instant := session.now, message := message }] ∧
        run.session = {
          replies := session.replies.tail
          now :=
            session.now + (transport.replyAt message session.replies 0).delay
        }
  failed :
    ∀ message error, transport.prepare request = .ok message →
      (transport.replyAt message session.replies 0).outcome = .error error →
        run.result = failure error
  succeeded :
    ∀ message body, transport.prepare request = .ok message →
      (transport.replyAt message session.replies 0).outcome = .ok body →
        run.result = success body

theorem Transport.exchange_isExchange
    (transport : Transport Message Response)
    (request : Request)
    (session : Session Response) :
    IsExchange transport request .error .ok session
      (transport.exchange request session) := by
  rcases session with ⟨replies, now⟩
  unfold exchange
  cases prepared : transport.prepare request with
  | error error =>
      constructor <;> simp [prepared]
  | ok message =>
      cases replies <;> constructor <;> simp +contextual [prepared, replyAt]

namespace IsExchange

variable
  {transport : Transport Message Response}
  {request : Request}
  {failure : QueueError → α}
  {success : String → α}
  {session : Session Response}
  {run : Run Message Response α}

/-- What is made of the result afterwards. -/
theorem map
    (isExchange : IsExchange transport request failure success session run)
    (change : α → β) :
    IsExchange transport request (change ∘ failure) (change ∘ success) session
      (run.map change) where
  refused error refused :=
    have ⟨nothing, kept, result⟩ := isExchange.refused error refused
    ⟨nothing, kept, congrArg change result⟩
  sent := isExchange.sent
  failed message error prepared outcome :=
    congrArg change (isExchange.failed message error prepared outcome)
  succeeded message body prepared outcome :=
    congrArg change (isExchange.succeeded message body prepared outcome)

/-- What is reported makes no difference. -/
theorem report
    (isExchange : IsExchange transport request failure success session run)
    (events : α → List Event) :
    IsExchange transport request failure success session (run.report events) :=
  { isExchange with }

theorem after
    (isExchange : IsExchange transport request failure success session run)
    (events : List Event) :
    IsExchange transport request failure success session (run.after events) :=
  { isExchange with }

/-- Whatever such a run sends is what the transport makes of the request. -/
theorem prepared
    (isExchange : IsExchange transport request failure success session run)
    {dispatch : Dispatch Message}
    (isSent : dispatch ∈ run.sent) :
    transport.prepare request = .ok dispatch.message := by
  cases prepared : transport.prepare request with
  | error error =>
      rw [(isExchange.refused error prepared).1] at isSent
      cases isSent
  | ok message =>
      rw [(isExchange.sent message prepared).1, List.mem_singleton] at isSent
      rw [isSent]

end IsExchange

/-- A record that is fetched is decoded from the body. -/
theorem Transport.fetch_isExchange
    [Wire α]
    (transport : Transport Message Response)
    (request : Request)
    (session : Session Response) :
    IsExchange transport request .error
      (fun body => (decode body).mapError .decode) session
      (transport.fetch (α := α) request session) :=
  (transport.exchange_isExchange request session).map Transport.decodeReply

/-! ## The interface -/

theorem Submission.request_eq
    (workflowId : String) :
    request workflowId = {
      method := .post
      segments := ["workflowqueue"]
      query := []
      body := some (.object [("workflow_id", .string workflowId)])
    } := by
  rw [request, Request.post, Request.ofPath, splitPath_queuePath, body]

theorem Statuses.changeRequest_eq
    (executionId : String)
    (action : StatusAction) :
    changeRequest executionId action = {
      method := .patch
      segments := ["workflowqueue"]
      query := []
      body :=
        some (.object [("execution_id", .string executionId),
          ("status", .string action.token)])
    } := by
  rw [changeRequest, Request.patch, Request.ofPath,
    Submission.splitPath_queuePath, changeBody]
  rfl

theorem Catalog.request_eq :
    request = {
      method := .get
      segments := ["playbooks"]
      query := []
      body := none
    } := by
  have route : Request.splitPath "/playbooks" = ["playbooks"] := by
    decide +kernel
  rw [request, Request.get, Request.ofPath, route]

namespace Client

/--
The interface of the queue: each call that asks one thing, the request for it,
and what the call gives for an error and for a body. A change of state ignores
the body.
-/
inductive Interface :
    Call →
    Request →
    (QueueError → Answer) →
    (String → Answer) →
    Prop where
  | enqueue
      (workflowId : String) :
      Interface
        (.enqueue workflowId)
        {
          method := .post
          segments := ["workflowqueue"]
          query := []
          body := some (.object [("workflow_id", .string workflowId)])
        }
        (fun error => .status (.error error))
        (fun body => .status ((decode body).mapError .decode))
  | status
      (executionId : String) :
      Interface
        (.status executionId)
        {
          method := .get
          segments := ["workflowqueue", executionId]
          query := []
          body := none
        }
        (fun error => .status (.error error))
        (fun body => .status ((decode body).mapError .decode))
  | statusPage
      (page : PageNumber) :
      Interface
        (.statusPage page)
        {
          method := .get
          segments := ["workflowqueue"]
          query := [("page", toString page.number)]
          body := none
        }
        (fun error => .statuses (.error error))
        (fun body => .statuses ((decode body).mapError .decode))
  | act
      (executionId : String)
      (action : StatusAction) :
      Interface
        (.act executionId action)
        {
          method := .patch
          segments := ["workflowqueue"]
          query := []
          body :=
            some (.object [("execution_id", .string executionId),
              ("status", .string action.token)])
        }
        (fun error => .done (.error error))
        (fun _ => .done (.ok ()))
  | playbooks :
      Interface
        .playbooks
        {
          method := .get
          segments := ["playbooks"]
          query := []
          body := none
        }
        (fun error => .playbooks (.error error))
        (fun body => .playbooks ((decode body).mapError .decode))

section Calls

variable
  (client : Client Message Response)
  (route : Route)
  (session : Session Response)

theorem enqueue_isExchange
    (workflowId : String) :
    IsExchange client.transport (Submission.request workflowId)
      (fun error => .status (.error error))
      (fun body => .status ((decode body).mapError .decode))
      session (client.perform route (.enqueue workflowId) session) := by
  rw [client.perform_route route]
  exact ((client.transport.fetch_isExchange _ session).report _).map
    Answer.status

theorem status_isExchange
    (executionId : String) :
    IsExchange client.transport (Statuses.statusRequest executionId)
      (fun error => .status (.error error))
      (fun body => .status ((decode body).mapError .decode))
      session (client.perform route (.status executionId) session) := by
  rw [client.perform_route route]
  exact ((client.transport.fetch_isExchange _ session).after _).map
    Answer.status

theorem statusPage_isExchange
    (page : PageNumber) :
    IsExchange client.transport (Statuses.pageRequest page)
      (fun error => .statuses (.error error))
      (fun body => .statuses ((decode body).mapError .decode))
      session (client.perform route (.statusPage page) session) := by
  rw [client.perform_route route]
  exact ((client.transport.fetch_isExchange _ session).report _).map
    Answer.statuses

theorem act_isExchange
    (executionId : String)
    (action : StatusAction) :
    IsExchange client.transport (Statuses.changeRequest executionId action)
      (fun error => .done (.error error))
      (fun _ => .done (.ok ()))
      session (client.perform route (.act executionId action) session) := by
  rw [client.perform_route route]
  exact (((client.transport.exchange_isExchange _ session).map
    (Except.map fun _ => ())).report _).map Answer.done

theorem playbooks_isExchange :
    IsExchange client.transport Catalog.request
      (fun error => .playbooks (.error error))
      (fun body => .playbooks ((decode body).mapError .decode))
      session (client.perform route .playbooks session) := by
  rw [client.perform_route route]
  exact ((client.transport.fetch_isExchange _ session).report _).map
    Answer.playbooks

/--
Every call of the interface is exactly one exchange of its request, whatever the
transport reports of it: an error is returned as it is, a body is decoded as
what the call is for, and a change of state succeeds with every body.
-/
theorem perform_isExchange
    {call : Call}
    {request : Request}
    {failure : QueueError → Answer}
    {success : String → Answer}
    (asks : Interface call request failure success) :
    IsExchange client.transport request failure success session
      (client.perform route call session) := by
  cases asks with
  | enqueue workflowId =>
      rw [← Submission.request_eq]
      exact client.enqueue_isExchange route session workflowId
  | status executionId =>
      have written := Watch.statusRequest_eq executionId
      rw [Watch.readingRequest] at written
      rw [← written]
      exact client.status_isExchange route session executionId
  | statusPage page =>
      have written := Statuses.pageRequest_eq page
      rw [Statuses.listingRequest] at written
      rw [← written]
      exact client.statusPage_isExchange route session page
  | act executionId action =>
      rw [← Statuses.changeRequest_eq]
      exact client.act_isExchange route session executionId action
  | playbooks =>
      rw [← Catalog.request_eq]
      exact client.playbooks_isExchange route session

end Calls

/-- A page that is no JSON in the place of an answer, and then a refusal. -/
def unreadableScript : List Reply := [
  { delay := 5, outcome := .ok "<html>" },
  { delay := 0, outcome := .error (.api 503 "\x7b\"detail\":null\x7d") }
]

theorem perform_isExchange_unreadable :
    let client : Client Request Reply :=
      { transport := Scripted.transport, backoff := .standard }
    let change := client.perform .part (.act "a/b" { token := "rewind" })
      { replies := unreadableScript, now := 7 }
    let page := client.perform .client (.statusPage .first) change.session
    change.result = .done (.ok ()) ∧
      change.session = { replies := unreadableScript.tail, now := 12 } ∧
      page.result = .statuses (.error (.api 503 "\x7b\"detail\":null\x7d")) ∧
      page.sent = [{
        instant := 12
        message := {
          method := .get
          segments := ["workflowqueue"]
          query := [("page", "1")]
          body := none
        }
      }] := by
  intro client change page
  have changed :=
    client.perform_isExchange .part { replies := unreadableScript, now := 7 }
      (.act "a/b" { token := "rewind" })
  have listed :=
    client.perform_isExchange .client change.session (.statusPage .first)
  have left :
      change.session = { replies := unreadableScript.tail, now := 12 } :=
    (changed.sent _ rfl).2
  refine ⟨changed.succeeded _ _ rfl rfl, left, ?_, ?_⟩
  · exact listed.failed _ _ rfl (by rw [left]; rfl)
  · rw [(listed.sent _ rfl).1, left]
    rfl

end Client

end WorkflowQueue
