import WorkflowQueue.Client.Scripted
import WorkflowQueue.Proofs.Mirroring

namespace WorkflowQueue

/-!
# Calls that leave nothing behind

A client keeps nothing between calls. All that a call leaves to the next one is
the replies that it did not use and the instant at which it ended, and neither
says more than that: `Client.performAll_stateless` compares every call of a list
with the same call made alone, by a fresh client over the replies that are left.
-/

variable {Message Response α β : Type}

/-! ## Replies that are used up -/

namespace Run

/--
A run that has used up one reply for each of its requests, from the first on.
-/
def UsesUp
    (replies : List Response)
    (run : Run Message Response α) :
    Prop :=
  run.session.replies = replies.drop run.sent.length

namespace UsesUp

variable
  {replies : List Response}
  {run : Run Message Response α}

theorem idle
    (session : Session Response)
    (result : α) :
    (Run.idle result session : Run Message Response α).UsesUp session.replies :=
  rfl

theorem map
    (usesUp : run.UsesUp replies)
    (change : α → β) :
    (run.map change).UsesUp replies :=
  usesUp

theorem report
    (usesUp : run.UsesUp replies)
    (events : α → List Event) :
    (run.report events).UsesUp replies :=
  usesUp

theorem after
    (usesUp : run.UsesUp replies)
    (events : List Event) :
    (run.after events).UsesUp replies :=
  usesUp

theorem cutAt
    (usesUp : run.UsesUp replies)
    (instant : Nat) :
    (Watch.cutAt instant run).UsesUp replies :=
  usesUp

theorem followedBy
    {second : Run Message Response β}
    (usesUp : run.UsesUp replies)
    (secondUsesUp : second.UsesUp run.session.replies) :
    (run.followedBy second).UsesUp replies := by
  unfold UsesUp at *
  rw [followedBy_session, followedBy_sent, List.length_append, secondUsesUp,
    usesUp, List.drop_drop]

end UsesUp

end Run

section Replies

variable
  (transport : Transport Message Response)
  (session : Session Response)

/--
A request that is sent takes the first reply, and one that is not sent takes
none.
-/
theorem Transport.exchange_usesUp
    (request : Request) :
    (transport.exchange request session).UsesUp session.replies := by
  rcases session with ⟨replies, now⟩
  unfold Run.UsesUp Transport.exchange
  cases transport.prepare request with
  | error error => rfl
  | ok message => cases replies <;> rfl

theorem Transport.fetch_usesUp
    [Wire α]
    (request : Request) :
    (transport.fetch (α := α) request session).UsesUp session.replies :=
  (transport.exchange_usesUp session request).map _

theorem Statuses.get_usesUp
    (executionId : String) :
    (Statuses.get transport executionId session).UsesUp session.replies :=
  (transport.fetch_usesUp session _).after _

theorem Statuses.getPage_usesUp
    (page : PageNumber) :
    (Statuses.getPage transport page session).UsesUp session.replies :=
  (transport.fetch_usesUp session _).report _

/-- The induction follows the walk, each page of which takes one reply. -/
theorem Statuses.allFrom_usesUp
    (page : PageNumber)
    (pages : UInt32)
    (gathered : List WorkflowStatus) :
    (Statuses.allFrom transport page pages gathered session).UsesUp
      session.replies := by
  induction page, pages, gathered, session using
    Statuses.allFrom.induct transport with
  | case1 page pages gathered session run error failed =>
      rw [Statuses.allFrom_of_error failed]
      exact (Statuses.getPage_usesUp transport session page).map _
  | case2 page pages gathered session run empty =>
      rw [Statuses.allFrom_of_empty empty]
      exact ((Statuses.getPage_usesUp transport session page).map _).report _
  | case3 page pages gathered session run first rest succeeded isLast =>
      rw [Statuses.allFrom_of_last succeeded isLast]
      exact ((Statuses.getPage_usesUp transport session page).map _).report _
  | case4 page pages gathered session run first rest succeeded pages' gathered'
      next follows inductionHypothesis =>
      rw [Statuses.allFrom_of_next succeeded follows]
      exact (Statuses.getPage_usesUp transport session page).followedBy
        inductionHypothesis

theorem Statuses.PageStream.step_usesUp
    (stream : Statuses.PageStream) :
    (stream.step transport session).UsesUp session.replies := by
  rcases stream with ⟨_ | page⟩
  · exact .idle session none
  · exact (Statuses.getPage_usesUp transport session page).map _

theorem Statuses.PageStream.take_usesUp
    (limit : Nat)
    (stream : Statuses.PageStream) :
    (Statuses.PageStream.take transport limit stream session).UsesUp
      session.replies := by
  induction limit generalizing stream session with
  | zero => exact .idle session _
  | succ limit inductionHypothesis =>
      have usesUp := stream.step_usesUp transport session
      rw [Statuses.PageStream.take]
      split
      · exact usesUp.map _
      · next item following isTaken =>
          exact usesUp.followedBy ((inductionHypothesis _ following).map _)

/-- The induction follows the watch. A wait takes time but no reply. -/
theorem Watch.readFrom_usesUp
    (backoff : Backoff)
    (cancellation : Watch.Cancellation)
    (executionId : String)
    (attempt : UInt32)
    (delay : Duration)
    (requests : Nat) :
    (Watch.readFrom transport backoff cancellation executionId attempt delay
      requests session).UsesUp session.replies := by
  induction attempt, delay, requests, session using
      Watch.readFrom.induct transport backoff cancellation executionId with
  | case1 attempt delay requests session due =>
      rw [Watch.readFrom_of_due due]
      exact (Run.UsesUp.idle session none).report _
  | case2 attempt delay requests session notDue run requests' instant cut =>
      rw [Watch.readFrom_of_cutsReply notDue cut]
      exact ((Statuses.get_usesUp transport session executionId).cutAt
        instant).report _
  | case3 attempt delay requests session notDue run requests' uncut
      error failed =>
      rw [Watch.readFrom_of_error notDue uncut failed]
      exact ((Statuses.get_usesUp transport session executionId).map _).report _
  | case4 attempt delay requests session notDue run requests' uncut status
      succeeded terminal =>
      rw [Watch.readFrom_of_terminal notDue uncut succeeded terminal]
      exact ((Statuses.get_usesUp transport session executionId).map _).report _
  | case5 attempt delay requests session notDue run requests' uncut status
      succeeded inProgress finish instant cut =>
      rw [Watch.readFrom_of_cutsDelay notDue uncut succeeded inProgress cut]
      exact ((Statuses.get_usesUp transport session executionId).report _).cutAt
        instant
  | case6 attempt delay requests session notDue run requests' uncut status
      succeeded inProgress finish waited inductionHypothesis =>
      rw [Watch.readFrom_of_wait notDue uncut succeeded inProgress waited]
      exact ((Statuses.get_usesUp transport session executionId).report
        _).followedBy inductionHypothesis

/-- Whatever is called, each request takes one reply, in order. -/
theorem Client.perform_usesUp
    (client : Client Message Response)
    (route : Client.Route)
    (call : Client.Call) :
    (client.perform route call session).UsesUp session.replies := by
  rw [client.perform_route route]
  cases call with
  | enqueue workflowId =>
      exact ((client.transport.fetch_usesUp session _).report _).map _
  | status executionId =>
      exact (Statuses.get_usesUp client.transport session executionId).map _
  | statusPage page =>
      exact (Statuses.getPage_usesUp client.transport session page).map _
  | allStatuses =>
      exact (Statuses.allFrom_usesUp client.transport session _ _ _).map _
  | pageStream start limit =>
      cases limit <;>
        exact
          (Statuses.PageStream.take_usesUp client.transport session _ _).map _
  | act executionId action =>
      exact
        (((client.transport.exchange_usesUp session _).map _).report _).map _
  | playbooks =>
      exact ((client.transport.fetch_usesUp session _).report _).map _
  | watch executionId cancellation =>
      exact (Watch.readFrom_usesUp client.transport session _ _ _ _ _ _).map _

end Replies

/-! ## The same run at another time -/

/-- What is sent when everything happens some time later. -/
def Dispatch.later
    (lag : Nat)
    (dispatch : Dispatch Message) :
    Dispatch Message where
  instant := dispatch.instant + lag
  message := dispatch.message

/-- A transport as its own mirror, with everything some time later. -/
def Mirror.later
    (lag : Nat) :
    Mirror Message Response Message Response where
  Shows := Eq
  Answers := Eq
  Fits _ := True
  lag := lag

/-- No exchange depends on the instant at which it is made. -/
theorem Mirror.exchanges_later
    (lag : Nat)
    (transport : Transport Message Response) :
    (Mirror.later lag).Exchanges transport transport := by
  rintro request ⟨replies, now⟩ ⟨imageReplies, imageNow⟩ ⟨alike, shifted⟩ -
  obtain rfl : replies = imageReplies :=
    (congrFun₂ List.forall₂_eq_eq_eq replies imageReplies).mp alike
  obtain rfl : imageNow = now + lag := shifted
  unfold Transport.exchange
  cases transport.prepare request with
  | error error => exact ⟨rfl, .nil, alike, rfl⟩
  | ok message =>
      have sent :
          List.Forall₂
            (Mirror.later lag :
              Mirror Message Response Message
                Response).Dispatches [{ instant := now, message := message }]
                  [{ instant := now + lag, message := message }] :=
        .cons ⟨rfl, rfl⟩ .nil
      cases replies with
      | nil => exact ⟨rfl, sent, alike, rfl⟩
      | cons response rest =>
          refine ⟨rfl, sent, List.forall₂_same.mpr fun _ _ => rfl, ?_⟩
          exact Nat.add_right_comm _ _ _

/-- What is shown some time later is the same. -/
theorem Mirror.later_dispatches
    {lag : Nat}
    {sent later : List (Dispatch Message)}
    (shown :
      List.Forall₂
        (Mirror.later lag : Mirror Message Response Message Response).Dispatches
        sent later) :
    later = sent.map (Dispatch.later lag) := by
  induction shown with
  | nil => rfl
  | @cons dispatch image _ _ shows _ inductionHypothesis =>
      rcases dispatch with ⟨instant, message⟩
      rcases image with ⟨imageInstant, imageMessage⟩
      obtain ⟨isLater, isSame⟩ := shows
      obtain rfl : imageInstant = instant + lag := isLater
      obtain rfl : message = imageMessage := isSame
      exact congrArg _ inductionHypothesis

namespace Client

/--
A run that is what a call gives by itself, made at the instant zero by a fresh
client over some replies, except that everything happened some time later.
-/
structure MadeAlone
    (client : Client Message Response)
    (call : Call)
    (replies : List Response)
    (lag : Nat)
    (run : Run Message Response Answer) : Prop where
  result :
    run.result =
      (client.perform .client (call.since lag)
        { replies := replies, now := 0 }).result
  sent :
    run.sent =
      (client.perform .client (call.since lag)
        { replies := replies, now := 0 }).sent.map (Dispatch.later lag)

/-- Neither the instant of a call nor the way to it makes a difference. -/
theorem perform_madeAlone
    (client : Client Message Response)
    (route : Route)
    (call : Call)
    (session : Session Response) :
    client.MadeAlone call session.replies session.now
      (client.perform route call session) := by
  have sessions :
      (Mirror.later session.now : Mirror Message Response Message
        Response).Sessions { replies := session.replies, now := 0 } session :=
    ⟨List.forall₂_same.mpr fun _ _ => rfl, (Nat.zero_add _).symm⟩
  have runs :=
    (Mirror.exchanges_later session.now client.transport).perform _
      client.backoff .client call session sessions fun _ _ => trivial
  rw [client.perform_route route]
  exact ⟨runs.result, Mirror.later_dispatches runs.sent⟩

/-! ## Calls one after another -/

/-- The number of requests of some runs. -/
def requestCount
    (runs : List (Run Message Response α)) :
    Nat :=
  (runs.flatMap Run.sent).length

/-- What some runs leave, one after another. -/
def sessionAfter
    (session : Session Response)
    (runs : List (Run Message Response α)) :
    Session Response :=
  (runs.getLast?.map Run.session).getD session

theorem sessionAfter_cons
    (session : Session Response)
    (run : Run Message Response α)
    (rest : List (Run Message Response α)) :
    sessionAfter session (run :: rest) = sessionAfter run.session rest := by
  unfold sessionAfter
  rw [List.getLast?_cons]
  cases rest.getLast? <;> rfl

/-- The calls that go through the client leave the same runs as any others. -/
theorem performAll_route
    (client : Client Message Response)
    (calls : List (Route × Call))
    (session : Session Response) :
    client.performAll (calls.map fun entry => (.client, entry.2)) session =
      client.performAll calls session := by
  induction calls generalizing session with
  | nil => rfl
  | cons entry rest inductionHypothesis =>
      obtain ⟨route, call⟩ := entry
      simp only [List.map_cons, performAll, client.perform_route route,
        inductionHypothesis]

/-- The first calls of a list do not depend on the later ones. -/
theorem performAll_take
    (client : Client Message Response)
    (calls : List (Route × Call))
    (session : Session Response)
    (count : Nat) :
    client.performAll (calls.take count) session =
      (client.performAll calls session).take count := by
  induction calls generalizing session count with
  | nil => simp [performAll]
  | cons entry rest inductionHypothesis =>
      obtain ⟨route, call⟩ := entry
      cases count with
      | zero => rfl
      | succ count =>
          rw [List.take_succ_cons, performAll, performAll, List.take_succ_cons,
            inductionHypothesis]

/-- All calls together have taken one reply for each request, in order. -/
theorem sessionAfter_replies
    (client : Client Message Response)
    (calls : List (Route × Call))
    (session : Session Response) :
    let runs := client.performAll calls session
    (sessionAfter session runs).replies =
      session.replies.drop (requestCount runs) := by
  induction calls generalizing session with
  | nil => rfl
  | cons entry rest inductionHypothesis =>
      obtain ⟨route, call⟩ := entry
      simp only [performAll, sessionAfter_cons, inductionHypothesis,
        requestCount, List.flatMap_cons, List.length_append]
      rw [client.perform_usesUp session route call, List.drop_drop]

/--
The run of a call in a list is its run in what the calls before it left. The
induction is on the calls, the position moving along with it.
-/
theorem performAll_getElem?
    (client : Client Message Response)
    (calls : List (Route × Call))
    (session : Session Response)
    (position : Fin calls.length) :
    let runs := client.performAll calls session
    runs[position.val]? =
      some (client.perform calls[position].1 calls[position].2
        (sessionAfter session (runs.take position))) := by
  induction calls generalizing session with
  | nil => exact position.elim0
  | cons entry rest inductionHypothesis =>
      obtain ⟨route, call⟩ := entry
      cases position using Fin.cases with
      | zero => rfl
      | succ position =>
          have here :=
            inductionHypothesis
              (client.perform route call session).session position
          simpa [performAll, sessionAfter_cons] using here

/--
What a request does to a script: it is sent, and takes the next reply if there
is one.
-/
structure TakesNext
    (request : Request)
    (session : Session Reply)
    (run : Run Request Reply (Except QueueError String)) : Prop where
  sent : run.sent.map Dispatch.message = [request]
  result :
    run.result =
      (session.replies.head?.map Reply.outcome).getD (.error Scripted.exhausted)
  replies : run.session.replies = session.replies.tail

theorem takesNext_exchange
    (request : Request)
    (session : Session Reply) :
    TakesNext request session
      (Scripted.transport.exchange request session) := by
  rcases session with ⟨_ | ⟨head, rest⟩, now⟩ <;> exact ⟨rfl, rfl, rfl⟩

/--
Calls influence each other only by using up replies. Every call of a list gives
the result and sends the requests that it gives and sends by itself, made by a
fresh client over the replies which the calls before it left; each request takes
the next reply or is refused when there is none; and no call depends on the way
it is made.
-/
theorem performAll_stateless
    (backoff : Backoff)
    (calls : List (Route × Call))
    (script : List Reply)
    (start : Nat) :
    let client : Client Request Reply :=
      { transport := Scripted.transport, backoff := backoff }
    let session : Session Reply := { replies := script, now := start }
    let runs := client.performAll calls session
    (∀ position : Fin calls.length, ∃ run,
      let before := runs.take position
      runs[position.val]? = some run ∧
        client.MadeAlone calls[position].2 (script.drop (requestCount before))
          (sessionAfter session before).now run) ∧
      (∀ request session, TakesNext request session
        (Scripted.transport.exchange request session)) ∧
      (sessionAfter session runs).replies.length =
        script.length - requestCount runs ∧
      client.performAll (calls.map fun entry => (.client, entry.2)) session =
        runs := by
  intro client session runs
  refine ⟨?_, takesNext_exchange, ?_, client.performAll_route calls session⟩
  · intro position
    refine ⟨_, client.performAll_getElem? calls session position, ?_⟩
    have left := client.sessionAfter_replies (calls.take position) session
    rw [client.performAll_take] at left
    rw [← left]
    exact client.perform_madeAlone _ _ _
  · rw [client.sessionAfter_replies calls session, List.length_drop]

end Client

end WorkflowQueue
