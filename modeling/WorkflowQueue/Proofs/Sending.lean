import WorkflowQueue.Proofs.Exchanging
import WorkflowQueue.Proofs.Stopping

namespace WorkflowQueue

/-!
# What calls send

A run sends nothing but what its transport makes of requests. What is known of
every message that a transport makes is therefore known of every message of
every call, and a transport that takes no request keeps all calls from sending
anything: each call that asks for something at all ends in the error of the
transport.
-/

variable {Message Response : Type}

/-! ## What all messages have -/

/--
A transport as its own mirror, in which only messages with a property are shown.
-/
def Mirror.having
    (Has : Message → Prop) :
    Mirror Message Response Message Response where
  Shows message image := image = message ∧ Has message
  Answers := Eq
  Fits _ := True
  lag := 0

theorem Mirror.exchanges_having
    {Has : Message → Prop}
    {transport : Transport Message Response}
    (has : ∀ request message, transport.prepare request = .ok message →
      Has message) :
    (Mirror.having Has).Exchanges transport transport := by
  rintro request ⟨replies, now⟩ ⟨imageReplies, imageNow⟩ ⟨alike, sameTime⟩ -
  obtain rfl : replies = imageReplies :=
    (congrFun₂ List.forall₂_eq_eq_eq replies imageReplies).mp alike
  obtain rfl : imageNow = now := sameTime
  unfold Transport.exchange
  cases prepared : transport.prepare request with
  | error error => exact ⟨rfl, .nil, alike, rfl⟩
  | ok message =>
      have sent :
          List.Forall₂
            (Mirror.having Has :
              Mirror Message Response Message Response).Dispatches
            [{ instant := imageNow, message := message }]
            [{ instant := imageNow, message := message }] :=
        .cons ⟨rfl, rfl, has request message prepared⟩ .nil
      cases replies with
      | nil => exact ⟨rfl, sent, alike, rfl⟩
      | cons response rest =>
          exact ⟨rfl, sent, List.forall₂_same.mpr fun _ _ => rfl, rfl⟩

/--
Every message of a call has what every message has that the transport makes.
-/
theorem Client.perform_sends
    {Has : Message → Prop}
    (client : Client Message Response)
    (has : ∀ request message, client.transport.prepare request = .ok message →
      Has message)
    (route : Client.Route)
    (call : Client.Call)
    (session : Session Response) :
    ∀ dispatch ∈ (client.perform route call session).sent,
      Has dispatch.message := by
  have sessions :
      (Mirror.having Has :
        Mirror Message Response Message Response).Sessions session session :=
    ⟨List.forall₂_same.mpr fun _ _ => rfl, rfl⟩
  have runs :=
    (Mirror.exchanges_having has).perform session client.backoff route call
      session sessions fun _ _ => trivial
  have sent := runs.sent
  rw [Mirror.having, Client.Call.since_zero] at sent
  intro dispatch isSent
  exact (List.forall₂_same.mp sent dispatch isSent).message.2

/--
What holds of each call in every session holds of calls that are made one after
another.
-/
theorem Client.performAll_each
    {Holds : Client.Call → Run Message Response Client.Answer → Prop}
    (client : Client Message Response)
    (holds :
      ∀ route call session, Holds call (client.perform route call session))
    (calls : List (Client.Route × Client.Call))
    (session : Session Response) :
    List.Forall₂ (fun entry run => Holds entry.2 run) calls
      (client.performAll calls session) := by
  induction calls generalizing session with
  | nil => exact .nil
  | cons entry rest inductionHypothesis =>
      obtain ⟨route, call⟩ := entry
      exact .cons (holds route call session) (inductionHypothesis _)

/-! ## A transport that takes no request -/

/--
A transport that takes no request, for a reason that does not depend on the
request.
-/
def Transport.Refuses
    (transport : Transport Message Response)
    (error : QueueError) :
    Prop :=
  ∀ request, transport.prepare request = .error error

/-- An exchange of a request that is refused ends in the refusal. -/
theorem IsExchange.endsIn_of_refuses
    {transport : Transport Message Response}
    {request : Request}
    {failure : QueueError → Client.Answer}
    {success : String → Client.Answer}
    {session : Session Response}
    {run : Run Message Response Client.Answer}
    {error : QueueError}
    (isExchange : IsExchange transport request failure success session run)
    (refuses : transport.Refuses error)
    (failed : (failure error).EndsIn error) :
    run.result.EndsIn error := by
  obtain ⟨-, -, result⟩ := isExchange.refused error (refuses request)
  rwa [result]

section Refused

variable
  {transport : Transport Message Response}
  {error : QueueError}
  (refuses : transport.Refuses error)
  (session : Session Response)

include refuses

/-- A fetch that is refused leaves the session as it was. -/
theorem Transport.fetch_of_refuses
    [Wire α]
    (request : Request) :
    (transport.fetch (α := α) request session).session = session ∧
      (transport.fetch (α := α) request session).result = .error error :=
  ((transport.fetch_isExchange request session).refused error
    (refuses request)).2

/-- A stream that is asked for an item gives the refusal as the item. -/
theorem Statuses.PageStream.take_of_refuses
    (page : PageNumber)
    (limit : Nat) :
    (take transport (limit + 1) (.start page) session).result.items =
      [.error error] := by
  have failed : (getPage transport page session).result = .error error :=
    (Transport.fetch_of_refuses refuses session (pageRequest page)).2
  rw [take_of_failure limit failed]
  rfl

/--
A watch that is not cancelled at once ends with the refusal of its request.
-/
theorem Watch.readFrom_of_refuses
    (backoff : Backoff)
    {cancellation : Cancellation}
    (executionId : String)
    (attempt : UInt32)
    (delay : Duration)
    {requests : Nat}
    (notDue : ¬ cancellation.isDue requests = true) :
    (readFrom transport backoff cancellation executionId attempt delay requests
        session).result =
      some (.error error) := by
  obtain ⟨atOnce, failed⟩ :
      (Statuses.get transport executionId session).session = session ∧
        (Statuses.get transport executionId session).result = .error error :=
    Transport.fetch_of_refuses refuses session
      (Statuses.statusRequest executionId)
  have uncut :
      let run := Statuses.get transport executionId session
      cancellation.cutsReply? (requests + run.sent.length) session.now
        run.session.now = none := by
    simp only [atOnce]
    exact Cancellation.cutsReply?_at_once
  rw [readFrom_of_error notDue uncut failed]
  exact congrArg some failed

end Refused

namespace Client

/--
A call that sends a request somewhere: over some transport and in some session.
-/
def Call.Asks
    (call : Call) :
    Prop :=
  ∃ (Message Response : Type) (client : Client Message Response)
      (session : Session Response),
    (client.perform .client call session).sent ≠ []

/-- No items are taken without a request. -/
theorem not_asks_of_no_items
    (start : PageNumber) :
    ¬ (Call.pageStream start (some 0)).Asks := by
  rintro ⟨_, _, client, session, sends⟩
  exact sends rfl

/-- A watch that is cancelled before its start sends nothing. -/
theorem notDue_of_asks
    {executionId : String}
    {cancellation : Watch.Cancellation}
    (asks : (Call.watch executionId cancellation).Asks) :
    ¬ cancellation.isDue 0 = true := by
  intro due
  obtain ⟨_, _, client, session, sends⟩ := asks
  refine sends ?_
  change (Watch.readFrom client.transport client.backoff cancellation
    executionId 1 client.backoff.initialDelay 0 session).sent = []
  rw [Watch.readFrom_of_due due]
  rfl

section Refused

variable
  {client : Client Message Response}
  {error : QueueError}
  (refuses : client.transport.Refuses error)
  (route : Route)
  (session : Session Response)

include refuses

/-- Where every request is refused, nothing is sent. -/
theorem perform_sent_of_refuses
    (call : Call) :
    (client.perform route call session).sent = [] := by
  have noMessage request message
      (prepared : client.transport.prepare request = .ok message) :
      False := by
    rw [refuses request] at prepared
    cases prepared
  exact List.eq_nil_iff_forall_not_mem.mpr
    (client.perform_sends noMessage route call session)

/--
Where every request is refused, a call that asks for something fails with the
refusal.
-/
theorem perform_endsIn_of_refuses
    {call : Call}
    (asks : call.Asks) :
    (client.perform route call session).result.EndsIn error := by
  cases call with
  | enqueue workflowId =>
      exact (client.enqueue_isExchange route session
        workflowId).endsIn_of_refuses refuses rfl
  | status executionId =>
      exact (client.status_isExchange route session
        executionId).endsIn_of_refuses refuses rfl
  | statusPage page =>
      exact (client.statusPage_isExchange route session page).endsIn_of_refuses
        refuses rfl
  | act executionId action =>
      exact (client.act_isExchange route session executionId
        action).endsIn_of_refuses refuses rfl
  | playbooks =>
      exact (client.playbooks_isExchange route session).endsIn_of_refuses
        refuses rfl
  | allStatuses =>
      have failed : (Statuses.getPage client.transport .first session).result =
          .error error :=
        (Transport.fetch_of_refuses refuses session _).2
      rw [client.perform_route route]
      change IsError
        (Statuses.allFrom client.transport .first 0 [] session).result error
      rw [Statuses.allFrom_of_error failed]
      rfl
  | pageStream start limit =>
      rw [client.perform_route route]
      rcases limit with _ | _ | limit
      · exact congrArg List.getLast?
          (Statuses.PageStream.take_of_refuses refuses session start _)
      · exact (not_asks_of_no_items start asks).elim
      · exact congrArg List.getLast?
          (Statuses.PageStream.take_of_refuses refuses session start _)
  | watch executionId cancellation =>
      rw [client.perform_route route]
      exact Watch.readFrom_of_refuses refuses session client.backoff executionId
        1 client.backoff.initialDelay (notDue_of_asks asks)

end Refused

end Client

end WorkflowQueue
