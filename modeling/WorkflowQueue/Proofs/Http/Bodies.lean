import WorkflowQueue.Proofs.Exchanging
import WorkflowQueue.Proofs.Http.OverScript
import WorkflowQueue.Proofs.Json.Texts

namespace WorkflowQueue

/-!
# Bodies of requests

The bodies that a client sends are objects of a few strings, and the strings are
whatever the caller gives. Such an object is read back from its text, so that no
string can reach beyond its own place there.
`Http.Endpoint.bodies_carry_arguments` says this of what arrives at a server.
-/

/-! ## The bodies of the client -/

namespace Submission

theorem body_increases
    (workflowId : String) :
    Json.TextsIncrease [("workflow_id", workflowId)] :=
  List.pairwise_singleton _ _

/-- The body of a submission names the workflow, whatever its identity. -/
theorem parse_compact_body
    (workflowId : String) :
    Json.parse (body workflowId).compact =
      .ok (.object [("workflow_id", .string workflowId)]) := by
  have isRead := Json.parse_compact_ofTexts (body_increases workflowId)
  exact isRead

/--
A quote, a backslash, a line break, a control character and a letter beyond
ASCII.
-/
example :
    (body "\"\\\n\x01é").compact =
      "\x7b\"workflow_id\":\"\\\"\\\\\\n\\u0001é\"\x7d" := by
  decide +kernel

theorem compact_body_injective :
    Function.Injective fun workflowId => (body workflowId).compact := by
  intro workflowId other same
  simpa using Json.eq_of_compact_ofTexts (body_increases workflowId)
    (body_increases other) same

end Submission

namespace Statuses

theorem changeBody_increases
    (executionId : String)
    (action : StatusAction) :
    Json.TextsIncrease [("execution_id", executionId),
      ("status", action.token)] := by
  have inOrder : ["execution_id", "status"].Pairwise (· < ·) := by decide
  exact inOrder

/--
The body of a change names the execution and the change, whatever both are
called.
-/
theorem parse_compact_changeBody
    (executionId : String)
    (action : StatusAction) :
    Json.parse (changeBody executionId action).compact =
      .ok (.object [("execution_id", .string executionId),
        ("status", .string action.token)]) := by
  have isRead :=
    Json.parse_compact_ofTexts (changeBody_increases executionId action)
  exact isRead

theorem compact_changeBody_injective :
    Function.Injective fun change : String × StatusAction =>
      (changeBody change.1 change.2).compact := by
  rintro ⟨executionId, ⟨token⟩⟩ ⟨otherId, ⟨otherToken⟩⟩ same
  simpa using Json.eq_of_compact_ofTexts
    (changeBody_increases executionId ⟨token⟩)
    (changeBody_increases otherId ⟨otherToken⟩) same

end Statuses

/-! ## What arrives -/

namespace Http.Endpoint

/--
A run in which a body arrives. A request that the endpoint can send arrives as
one message, and whatever is sent has the text of the body under the content
type of JSON.
-/
structure Delivers
    (endpoint : Endpoint)
    (request : Request)
    (text : String)
    (run : Run Message Response α) : Prop where
  once :
    ∀ message, endpoint.message request = .ok message →
      run.sent.map Dispatch.message = [message]
  carries :
    ∀ dispatch ∈ run.sent,
      dispatch.message.body = text ∧
        dispatch.message.contentType = ["application/json"]

/-- An exchange of a request with a body delivers the text of the body. -/
theorem delivers_of_isExchange
    {endpoint : Endpoint}
    {request : Request}
    {failure : QueueError → α}
    {success : String → α}
    {session : Session Response}
    {run : Run Message Response α}
    (isExchange :
      IsExchange endpoint.transport request failure success session run)
    {value : Json}
    (isBody : request.body = some value) :
    endpoint.Delivers request value.compact run where
  once message isMessage := by
    rw [(isExchange.sent message isMessage).1]
    rfl
  carries dispatch isSent := by
    have content := (shows_of_message (isExchange.prepared isSent)).2.content
    rw [isBody] at content
    exact ⟨content.2, content.1⟩

/--
No identity and no token can corrupt a body. What arrives of a submission is a
text that is read as the object with the identity of the workflow as its only
member, what arrives of a change as the object with the execution and the token;
and the texts differ where the arguments do.
-/
theorem bodies_carry_arguments
    (endpoint : Endpoint)
    (backoff : Backoff)
    (route : Client.Route)
    (session : Session Response) :
    let client : Client Message Response :=
      { transport := endpoint.transport, backoff := backoff }
    (∀ workflowId,
      Json.parse (Submission.body workflowId).compact =
          .ok (.object [("workflow_id", .string workflowId)]) ∧
        endpoint.Delivers (Submission.request workflowId)
          (Submission.body workflowId).compact
          (client.perform route (.enqueue workflowId) session)) ∧
      (∀ executionId action,
        Json.parse (Statuses.changeBody executionId action).compact =
            .ok (.object [
              ("execution_id", .string executionId),
              ("status", .string action.token)
            ]) ∧
          endpoint.Delivers (Statuses.changeRequest executionId action)
            (Statuses.changeBody executionId action).compact
            (client.perform route (.act executionId action) session)) ∧
      (Function.Injective fun workflowId =>
        (Submission.body workflowId).compact) ∧
      Function.Injective fun change : String × StatusAction =>
        (Statuses.changeBody change.1 change.2).compact := by
  intro client
  refine ⟨?_, ?_, Submission.compact_body_injective,
    Statuses.compact_changeBody_injective⟩
  · intro workflowId
    exact ⟨Submission.parse_compact_body workflowId,
      delivers_of_isExchange
        (client.enqueue_isExchange route session workflowId) rfl⟩
  · intro executionId action
    exact ⟨Statuses.parse_compact_changeBody executionId action,
      delivers_of_isExchange
        (client.act_isExchange route session executionId action) rfl⟩

theorem bodies_carry_arguments_hostile :
    let client : Client Message Response := {
      transport := exampleEndpoint.transport
      backoff := .standard
    }
    let run := client.perform .client (.act "\",\x7d\x00😀" { token := "\\" })
      { replies := [], now := 0 }
    ∃ dispatch ∈ run.sent,
      Json.parse dispatch.message.body =
        .ok (.object [("execution_id", .string "\",\x7d\x00😀"),
          ("status", .string "\\")]) := by
  intro client run
  obtain ⟨-, changes, -, -⟩ :=
    exampleEndpoint.bodies_carry_arguments .standard .client
      { replies := [], now := 0 }
  obtain ⟨isRead, delivers⟩ := changes "\",\x7d\x00😀" { token := "\\" }
  have isSent : 0 < run.sent.length := by decide +kernel
  refine ⟨run.sent[0], List.getElem_mem isSent, ?_⟩
  rw [(delivers.carries _ (List.getElem_mem isSent)).1, isRead]

end Http.Endpoint

end WorkflowQueue
