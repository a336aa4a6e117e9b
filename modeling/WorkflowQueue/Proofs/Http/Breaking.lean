import WorkflowQueue.Http.Endpoint
import WorkflowQueue.Proofs.Http.Following
import WorkflowQueue.Proofs.Stopping
import WorkflowQueue.Proofs.Url.Routes

namespace WorkflowQueue.Http

/-!
# Responses that break off

A response may be complete, break off inside its body, or not come at all.
`Hop.Fails` says which error each response but a complete success is, without a
look at how far a broken body got: nothing that arrived of it is read. Where a
response leads elsewhere, the response at the end of that way decides, and
`Ending.Fails` adds what can go wrong on it. No call goes on after such an end,
and `Endpoint.perform_stops_at_failure` says what it ends in. No request is sent
again, and a server that never ends its response is left out, since how long to
wait for it is up to the endpoint.
-/

namespace Hop

/--
The text of a body that has arrived. A status that goes without a body has the
empty text.
-/
def content
    (legacy : Text.Legacy)
    (hop : Hop) :
    String :=
  if hop.isBodiless then ""
  else Text.readBody legacy (hop.header? "content-type") hop.body

/--
All that was announced has arrived. A status that goes without a body announces
nothing.
-/
def IsComplete
    (hop : Hop) :
    Prop :=
  hop.earlyEnd = none ∨
    (hop.earlyEnd = some .truncate ∧ hop.isBodiless = true)

/-- The body has broken off before its announced length. -/
def IsTruncated
    (hop : Hop) :
    Prop :=
  hop.earlyEnd = some .truncate ∧ hop.isBodiless = false

/-- The error that a response is, when a request was sent to an address. -/
inductive Fails
    (legacy : Text.Legacy)
    (address : String)
    (hop : Hop) :
    QueueError →
    Prop where
  | refusal
      (complete : hop.IsComplete)
      (notSuccess : hop.isSuccess = false) :
      hop.Fails legacy address (.api hop.status (hop.content legacy))
  | brokenRefusal
      (truncated : hop.IsTruncated)
      (notSuccess : hop.isSuccess = false) :
      hop.Fails legacy address (.api hop.status "<unreadable body>")
  | brokenSuccess
      (truncated : hop.IsTruncated)
      (success : hop.isSuccess = true) :
      hop.Fails legacy address (.request .cutOff)
  | noResponse
      (isClosed : hop.earlyEnd = some .close) :
      hop.Fails legacy address (.request (.closed address))

variable
  {legacy : Text.Legacy}
  {hop : Hop}
  {address : String}
  {error : QueueError}

theorem text?_of_isComplete
    (complete : hop.IsComplete) :
    hop.text? legacy = some (hop.content legacy) := by
  unfold text? content
  rcases complete with isWhole | ⟨-, bodiless⟩
  · simp only [isWhole, reduceCtorEq, if_false]
    split <;> rfl
  · simp [bodiless]

theorem text?_of_isTruncated
    (truncated : hop.IsTruncated) :
    hop.text? legacy = none := by
  simp [text?, truncated.1, truncated.2]

/--
Every response but a complete success is an error, unless there is no end of it.
-/
theorem exists_fails
    (legacy : Text.Legacy)
    (address : String)
    (ends : hop.earlyEnd ≠ some .hang)
    (notComplete : ¬ (hop.IsComplete ∧ hop.isSuccess = true)) :
    ∃ error, hop.Fails legacy address error := by
  by_cases isClosed : hop.earlyEnd = some .close
  · exact ⟨_, .noResponse isClosed⟩
  by_cases complete : hop.IsComplete
  · have notSuccess : hop.isSuccess = false :=
      Bool.eq_false_iff.mpr fun success => notComplete ⟨complete, success⟩
    exact ⟨_, .refusal complete notSuccess⟩
  have truncated : hop.IsTruncated := by
    obtain ⟨notWhole, withBody⟩ := not_or.mp complete
    have isTruncated : hop.earlyEnd = some .truncate := by
      cases early : hop.earlyEnd with
      | none => exact (notWhole early).elim
      | some ending => cases ending <;> simp_all
    exact ⟨isTruncated,
      Bool.eq_false_iff.mpr fun bodiless => withBody ⟨isTruncated, bodiless⟩⟩
  cases success : hop.isSuccess with
  | false => exact ⟨_, .brokenRefusal truncated success⟩
  | true => exact ⟨_, .brokenSuccess truncated success⟩

/-- What an endpoint makes of a response that fails. -/
theorem Fails.replyOf_eq
    (endpoint : Endpoint)
    {message : Message}
    (fails : hop.Fails endpoint.network.legacy message.address.text error) :
    endpoint.replyOf message hop =
      { delay := 0, outcome := .error error } := by
  cases fails with
  | refusal complete notSuccess =>
      have outcome :
          hop.outcome endpoint.network.legacy =
            .error (.api hop.status (hop.content endpoint.network.legacy)) := by
        simp [Hop.outcome, notSuccess, text?_of_isComplete complete]
      rcases complete with isWhole | ⟨isTruncated, -⟩ <;>
        simp_all [Endpoint.replyOf]
  | brokenRefusal truncated notSuccess =>
      simp [Endpoint.replyOf, truncated.1, Hop.outcome, notSuccess,
        text?_of_isTruncated truncated, unreadable]
  | brokenSuccess truncated success =>
      simp [Endpoint.replyOf, truncated.1, Hop.outcome, success,
        text?_of_isTruncated truncated]
  | noResponse isClosed =>
      simp [Endpoint.replyOf, isClosed]

/-- What an endpoint makes of a complete success. -/
theorem replyOf_of_isComplete
    (endpoint : Endpoint)
    (message : Message)
    (complete : hop.IsComplete)
    (success : hop.isSuccess = true) :
    endpoint.replyOf message hop =
      { delay := 0, outcome := .ok (hop.content endpoint.network.legacy) } := by
  have outcome :
      hop.outcome endpoint.network.legacy =
        .ok (hop.content endpoint.network.legacy) := by
    simp [Hop.outcome, success, text?_of_isComplete complete]
  rcases complete with isWhole | ⟨isTruncated, -⟩ <;>
    simp_all [Endpoint.replyOf]

end Hop

namespace Ending

/-- The exchange ends with a complete success. -/
def IsSuccess :
    Ending →
    Prop
  | .response hop => hop.IsComplete ∧ hop.isSuccess = true
  | _ => False

/-- The exchange ends with a response that has no end itself. -/
def Hangs :
    Ending →
    Prop
  | .response hop => hop.earlyEnd = some .hang
  | _ => False

/-- The status of a refusal. Without a usable response there is none. -/
def status? :
    Ending →
    Option Nat
  | .response hop =>
      if hop.isSuccess = true ∨ hop.earlyEnd = some .close then none
      else some hop.status
  | .blocked _ => none
  | .unanswered => some 599

/--
The error that an exchange ends in, when its first message went to an address.
-/
inductive Fails
    (legacy : Text.Legacy)
    (address : String) :
    Ending →
    QueueError →
    Prop where
  | response
      {hop : Hop}
      {error : QueueError}
      (fails : hop.Fails legacy address error) :
      Fails legacy address (.response hop) error
  | blocked
      (failure : RequestFailure) :
      Fails legacy address (.blocked failure) (.request failure)
  | unanswered :
      Fails legacy address .unanswered Scripted.exhausted

variable
  {ending : Ending}
  {address : String}
  {error : QueueError}

/-- Every end but a complete success is an error, unless it never comes. -/
theorem exists_fails
    (legacy : Text.Legacy)
    (address : String)
    (ends : ¬ ending.Hangs)
    (notSuccess : ¬ ending.IsSuccess) :
    ∃ error, Fails legacy address ending error := by
  cases ending with
  | response hop =>
      obtain ⟨error, fails⟩ := hop.exists_fails legacy address ends notSuccess
      exact ⟨error, .response fails⟩
  | blocked failure => exact ⟨_, .blocked failure⟩
  | unanswered => exact ⟨_, .unanswered⟩

/-- An error has a status exactly when a refusal came. -/
theorem Fails.status?_eq
    {legacy : Text.Legacy}
    (fails : Fails legacy address ending error) :
    error.status? = ending.status? := by
  cases fails with
  | blocked failure => rfl
  | unanswered => rfl
  | @response hop error fails =>
      cases fails with
      | refusal complete notSuccess =>
          rcases complete with isWhole | ⟨isTruncated, -⟩ <;>
            simp_all [QueueError.status?, Ending.status?]
      | brokenRefusal truncated notSuccess =>
          simp [notSuccess, truncated.1, QueueError.status?, Ending.status?]
      | brokenSuccess truncated success =>
          simp [success, QueueError.status?, Ending.status?]
      | noResponse isClosed =>
          simp [isClosed, QueueError.status?, Ending.status?]

end Ending

namespace Endpoint

variable
  (endpoint : Endpoint)
  (backoff : Backoff)
  (route : Client.Route)

/-- What an endpoint makes of an exchange that fails. -/
theorem reply_of_fails
    {message : Message}
    {response : Response}
    {error : QueueError}
    (fails :
      Ending.Fails endpoint.network.legacy message.address.text
        (message.course response).ending error) :
    endpoint.reply message response =
      { delay := 0, outcome := .error error } := by
  unfold reply
  generalize (message.course response).ending = ending at fails ⊢
  cases fails with
  | response fails => exact fails.replyOf_eq endpoint
  | blocked failure => rfl
  | unanswered => rfl

/-- An exchange that ends with a complete success gives its text. -/
theorem exists_reply_of_success
    {message : Message}
    {response : Response}
    (success : (message.course response).ending.IsSuccess) :
    ∃ body, endpoint.reply message response =
      { delay := 0, outcome := .ok body } := by
  unfold reply
  generalize (message.course response).ending = ending at success ⊢
  cases ending with
  | response hop =>
      exact ⟨_, hop.replyOf_of_isComplete endpoint message success.1 success.2⟩
  | blocked failure => exact success.elim
  | unanswered => exact success.elim

/--
A change of state that is answered by a complete success is made, whatever the
body says.
-/
theorem act_of_success
    {executionId : String}
    {action : StatusAction}
    {message : Message}
    {response : Response}
    (rest : List Response)
    (now : Nat)
    (isSent :
      endpoint.message (Statuses.changeRequest executionId action) =
        .ok message)
    (success : (message.course response).ending.IsSuccess) :
    ((Client.mk endpoint.transport backoff).perform route
      (.act executionId action)
      { replies := response :: rest, now := now }).result = .done (.ok ()) := by
  have prepared :
      endpoint.transport.prepare (Statuses.changeRequest executionId action) =
        .ok message := isSent
  obtain ⟨body, answered⟩ := endpoint.exists_reply_of_success success
  have isAnswer :
      endpoint.transport.answer message response =
        { delay := 0, outcome := .ok body } := answered
  rw [Client.perform_route]
  simp [Client.perform, Client.act, Statuses.act, Transport.exchange, prepared,
    isAnswer, Except.map]

/-- An empty list of which the last characters are missing. -/
def cutOffPage : Hop :=
  { Hop.ofText "[]" with earlyEnd := some .truncate }

/-- A page that lies elsewhere and breaks off there. -/
def movedPage : Response where
  status := 307
  headers := [("Location", "/elsewhere?page=2")]
  body := []
  earlyEnd := none
  onward := [cutOffPage]

/--
A page with one execution, the page that lies elsewhere, and one more page.
-/
def brokenScript : List Response := [
  {
    toHop :=
      .ofText "[\x7b\"execution_id\":\"e\",\"status\":\"running\"\x7d]"
  },
  movedPage,
  { toHop := .ofText "[]" }
]

/-- A refusal in favour of another address, where there is an empty list. -/
def movedList : Response where
  status := 302
  headers := [("Location", "/api/moved")]
  body := []
  earlyEnd := none
  onward := [.ofText "[]"]

end Endpoint

end WorkflowQueue.Http
