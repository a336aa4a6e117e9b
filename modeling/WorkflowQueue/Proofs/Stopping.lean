import WorkflowQueue.Proofs.Interrupting
import WorkflowQueue.Proofs.Pacing
import WorkflowQueue.Proofs.Stateless
import WorkflowQueue.Proofs.Streaming

namespace WorkflowQueue

/-!
# Stopping at the first failure

No call goes on after an exchange that failed. Whatever the transport and
whatever the call, the request of a failed exchange is the last one of the call,
and the error of the exchange is what the call ends in.
`Client.perform_stopsAtFailure` says so for all calls; it is put together from
one statement for a single exchange and the ways in which runs are made of
others. A reply that takes time may be dropped by a watch that is cancelled in
the meantime, so failures are those that are there at once.
-/

variable {Message Response α β : Type}

/-! ## Failures -/

/-- The exchange at a position failed at once, with an error. -/
def Run.FailsAt
    (transport : Transport Message Response)
    (replies : List Response)
    (run : Run Message Response α)
    (position : Nat)
    (error : QueueError) :
    Prop :=
  ∃ dispatch, run.sent[position]? = some dispatch ∧
    transport.replyAt dispatch.message replies position =
      { delay := 0, outcome := .error error }

/--
A run in which an exchange that fails is the last, and its error what comes of
the run.
-/
def Run.StopsAtFailure
    (transport : Transport Message Response)
    (replies : List Response)
    (EndsIn : α → QueueError → Prop)
    (run : Run Message Response α) :
    Prop :=
  ∀ position error, run.FailsAt transport replies position error →
    run.sent.length = position + 1 ∧ EndsIn run.result error

/-- A result that is an error. -/
def IsError
    (result : Except QueueError α)
    (error : QueueError) :
    Prop :=
  result = .error error

theorem not_isError_of_ok
    {result : Except QueueError α}
    {content : α}
    (succeeded : result = .ok content)
    (error : QueueError) :
    ¬ IsError result error := by
  rw [succeeded]
  rintro ⟨⟩

section Replies

variable
  {transport : Transport Message Response}
  {replies : List Response}
  {position : Nat}
  {error : QueueError}

theorem Transport.replyAt_drop
    (message : Message)
    (count : Nat) :
    transport.replyAt message (replies.drop count) position =
      transport.replyAt message replies (count + position) := by
  rw [replyAt, replyAt, List.getElem?_drop]

namespace Run

/-- Whether an exchange failed is seen from what was sent. -/
theorem FailsAt.of_sent
    {run : Run Message Response α}
    {other : Run Message Response β}
    (failsAt : run.FailsAt transport replies position error)
    (same : run.sent = other.sent) :
    other.FailsAt transport replies position error := by
  obtain ⟨dispatch, isSent, failed⟩ := failsAt
  exact ⟨dispatch, same ▸ isSent, failed⟩

theorem FailsAt.lt_length
    {run : Run Message Response α}
    (failsAt : run.FailsAt transport replies position error) :
    position < run.sent.length := by
  obtain ⟨dispatch, isSent, -⟩ := failsAt
  exact (List.getElem?_eq_some_iff.mp isSent).1

/-- An exchange of two runs is one of the first run or one of the second. -/
theorem FailsAt.of_followedBy
    {first : Run Message Response α}
    {second : Run Message Response β}
    (usesUp : first.UsesUp replies)
    (failsAt :
      (first.followedBy second).FailsAt transport replies position error) :
    first.FailsAt transport replies position error ∨
      ∃ inSecond, position = first.sent.length + inSecond ∧
        second.FailsAt transport first.session.replies inSecond error := by
  obtain ⟨dispatch, isSent, failed⟩ := failsAt
  rw [followedBy_sent] at isSent
  rcases Nat.lt_or_ge position first.sent.length with inFirst | afterFirst
  · rw [List.getElem?_append_left inFirst] at isSent
    exact Or.inl ⟨dispatch, isSent, failed⟩
  · obtain ⟨inSecond, rfl⟩ := Nat.exists_eq_add_of_le afterFirst
    rw [List.getElem?_append_right afterFirst, Nat.add_sub_cancel_left]
      at isSent
    refine Or.inr ⟨inSecond, rfl, dispatch, isSent, ?_⟩
    rw [usesUp, Transport.replyAt_drop]
    exact failed

namespace StopsAtFailure

variable
  {EndsIn : α → QueueError → Prop}
  {EndsSo : β → QueueError → Prop}
  {run first : Run Message Response α}
  {second : Run Message Response β}

/-- A run without failures. -/
theorem of_unfailing
    (unfailing :
      ∀ position error, ¬ run.FailsAt transport replies position error) :
    run.StopsAtFailure transport replies EndsIn :=
  fun position error failsAt => (unfailing position error failsAt).elim

theorem of_nothing
    (nothing : run.sent = []) :
    run.StopsAtFailure transport replies EndsIn :=
  of_unfailing fun position error failsAt => by
    have before := failsAt.lt_length
    rw [nothing] at before
    exact Nat.not_lt_zero position before

/-- What succeeded has not failed anywhere. -/
theorem unfailing
    (stops : run.StopsAtFailure transport replies EndsIn)
    (succeeded : ∀ error, ¬ EndsIn run.result error) :
    ∀ position error, ¬ run.FailsAt transport replies position error :=
  fun position error failsAt => succeeded error (stops position error failsAt).2

/-- The errors of a run are those of another one that sent the same. -/
theorem of_sent
    {other : Run Message Response β}
    (stops : run.StopsAtFailure transport replies EndsIn)
    (same : other.sent = run.sent)
    (keeps : ∀ error, EndsIn run.result error → EndsSo other.result error) :
    other.StopsAtFailure transport replies EndsSo := by
  intro position error failsAt
  obtain ⟨last, endsIn⟩ := stops position error (failsAt.of_sent same)
  exact ⟨same ▸ last, keeps error endsIn⟩

/-- A run that follows one without failures stops where it stops by itself. -/
theorem followedBy
    (usesUp : first.UsesUp replies)
    (unfailing :
      ∀ position error, ¬ first.FailsAt transport replies position error)
    (stops : second.StopsAtFailure transport first.session.replies EndsSo) :
    (first.followedBy second).StopsAtFailure transport replies EndsSo := by
  intro position error failsAt
  rcases failsAt.of_followedBy usesUp with inFirst | ⟨inSecond, rfl, failed⟩
  · exact (unfailing position error inFirst).elim
  · obtain ⟨last, endsIn⟩ := stops inSecond error failed
    rw [followedBy_sent, List.length_append, last, Nat.add_assoc]
    exact ⟨rfl, endsIn⟩

end StopsAtFailure

end Run

end Replies

/-! ## One exchange -/

section Parts

variable
  (transport : Transport Message Response)
  (session : Session Response)

/-- An exchange that fails at once gives the error, and takes no time. -/
theorem Transport.exchange_of_failsAt
    {request : Request}
    {position : Nat}
    {error : QueueError}
    (failsAt :
      (transport.exchange request session).FailsAt transport session.replies
        position error) :
    (transport.exchange request session).sent.length = position + 1 ∧
      (transport.exchange request session).result = .error error ∧
      (transport.exchange request session).session.now = session.now := by
  have before := failsAt.lt_length
  obtain ⟨dispatch, isSent, failed⟩ := failsAt
  rcases session with ⟨replies, now⟩
  unfold exchange at before isSent ⊢
  cases prepared : transport.prepare request with
  | error refused => simp [prepared] at before
  | ok message =>
      cases replies <;>
        · simp only [prepared, List.length_singleton, Nat.lt_one_iff] at before
          subst before
          simp only [prepared, List.getElem?_cons_zero, Option.some.injEq]
            at isSent
          subst isSent
          simp_all [replyAt]

theorem Transport.exchange_stopsAtFailure
    (request : Request) :
    (transport.exchange request session).StopsAtFailure transport
      session.replies IsError :=
  fun _ _ failsAt =>
    have ⟨last, failed, _⟩ := transport.exchange_of_failsAt session failsAt
    ⟨last, failed⟩

/-- A reply that failed is not decoded. -/
theorem Transport.fetch_stopsAtFailure
    [Wire α]
    (request : Request) :
    (transport.fetch (α := α) request session).StopsAtFailure transport
      session.replies
      IsError :=
  (transport.exchange_stopsAtFailure session request).of_sent
      rfl fun _ isError =>
    congrArg decodeReply isError

theorem Statuses.get_stopsAtFailure
    (executionId : String) :
    (Statuses.get transport executionId session).StopsAtFailure transport
      session.replies
      IsError :=
  transport.fetch_stopsAtFailure session (Statuses.statusRequest executionId)

/-- A reading that fails at once takes no time. -/
theorem Statuses.get_now_of_failsAt
    {executionId : String}
    {position : Nat}
    {error : QueueError}
    (failsAt :
      (Statuses.get transport executionId session).FailsAt transport
        session.replies position error) :
    (Statuses.get transport executionId session).session.now = session.now :=
  (transport.exchange_of_failsAt session failsAt).2.2

theorem Statuses.getPage_stopsAtFailure
    (page : PageNumber) :
    (Statuses.getPage transport page session).StopsAtFailure transport
      session.replies IsError :=
  transport.fetch_stopsAtFailure session (Statuses.pageRequest page)

/-- The body of a success is ignored, but not an error. -/
theorem Statuses.act_stopsAtFailure
    (executionId : String)
    (action : StatusAction) :
    (Statuses.act transport executionId action session).StopsAtFailure transport
      session.replies
      IsError :=
  (transport.exchange_stopsAtFailure session _).of_sent rfl fun _ isError =>
    congrArg (Except.map fun _ => ()) isError

/-! ## Many exchanges -/

/--
A walk ends with the first page that fails. The induction follows the walk.
-/
theorem Statuses.allFrom_stopsAtFailure
    (page : PageNumber)
    (pages : UInt32)
    (gathered : List WorkflowStatus) :
    (Statuses.allFrom transport page pages gathered session).StopsAtFailure
      transport session.replies IsError := by
  induction page, pages, gathered, session using
    Statuses.allFrom.induct transport with
  | case1 page pages gathered session run error failed =>
      have stops := Statuses.getPage_stopsAtFailure transport session page
      rw [Statuses.allFrom_of_error failed]
      exact stops.of_sent rfl fun other isError => failed.symm.trans isError
  | case2 page pages gathered session run empty =>
      have stops := Statuses.getPage_stopsAtFailure transport session page
      rw [Statuses.allFrom_of_empty empty]
      exact stops.of_sent rfl fun other isError =>
        (not_isError_of_ok empty other isError).elim
  | case3 page pages gathered session run first rest succeeded isLast =>
      have stops := Statuses.getPage_stopsAtFailure transport session page
      rw [Statuses.allFrom_of_last succeeded isLast]
      exact stops.of_sent rfl fun other isError =>
        (not_isError_of_ok succeeded other isError).elim
  | case4 page pages gathered session run first rest succeeded pages' gathered'
      next follows inductionHypothesis =>
      have stops := Statuses.getPage_stopsAtFailure transport session page
      rw [Statuses.allFrom_of_next succeeded follows]
      exact .followedBy (Statuses.getPage_usesUp transport session page)
        (stops.unfailing (not_isError_of_ok succeeded)) inductionHypothesis

/-- Items of which the last is an error. -/
def Statuses.PageStream.Taken.EndsIn
    (taken : Statuses.PageStream.Taken)
    (error : QueueError) :
    Prop :=
  taken.items.getLast? = some (.error error)

/-- A stream ends with the first page that fails. -/
theorem Statuses.PageStream.take_stopsAtFailure
    (limit : Nat)
    (stream : Statuses.PageStream) :
    (Statuses.PageStream.take transport limit stream session).StopsAtFailure
      transport session.replies Taken.EndsIn := by
  induction limit generalizing stream session with
  | zero => exact .of_nothing rfl
  | succ limit inductionHypothesis =>
      rcases stream with ⟨_ | page⟩
      · rw [take_none]
        exact .of_nothing rfl
      have stops := Statuses.getPage_stopsAtFailure transport session page
      change
        (take transport (limit + 1) (start page) session).StopsAtFailure _ _ _
      cases read : (Statuses.getPage transport page session).result with
      | error error =>
          rw [take_of_failure limit read]
          refine stops.of_sent rfl fun other isError => ?_
          obtain rfl : error = other :=
            Except.error.inj (read.symm.trans isError)
          rfl
      | ok statuses =>
          have unfailing := stops.unfailing (not_isError_of_ok read)
          cases statuses with
          | nil =>
              rw [take_of_empty limit read]
              exact .of_unfailing unfailing
          | cons first rest =>
              rw [take_of_page limit read]
              refine .followedBy
                (Statuses.getPage_usesUp transport session page) unfailing ?_
              refine (inductionHypothesis _ _).of_sent rfl fun other endsIn =>
                ?_
              rw [Taken.EndsIn] at endsIn ⊢
              rw [Run.map_result, List.getLast?_cons, endsIn, Option.getD_some]

/-- The result of a watch that was not cancelled, where it is an error. -/
def Watch.Outcome.EndsIn
    (outcome : Watch.Outcome)
    (error : QueueError) :
    Prop :=
  outcome = some (.error error)

/--
A watch ends with the first reading that fails. The induction follows the watch.
-/
theorem Watch.readFrom_stopsAtFailure
    (backoff : Backoff)
    (cancellation : Watch.Cancellation)
    (executionId : String)
    (attempt : UInt32)
    (delay : Duration)
    (requests : Nat) :
    (Watch.readFrom transport backoff cancellation executionId attempt delay
      requests session).StopsAtFailure transport session.replies
        Outcome.EndsIn := by
  induction attempt, delay, requests, session using
      Watch.readFrom.induct transport backoff cancellation executionId with
  | case1 attempt delay requests session due =>
      rw [Watch.readFrom_of_due due]
      exact .of_nothing rfl
  | case2 attempt delay requests session notDue run requests' instant cut =>
      rw [Watch.readFrom_of_cutsReply notDue cut]
      refine .of_unfailing fun position error failsAt => ?_
      -- A reply is dropped only while it takes time, and a failure takes none.
      have atOnce :=
        Statuses.get_now_of_failsAt transport session (failsAt.of_sent rfl)
      rw [atOnce, Cancellation.cutsReply?_at_once] at cut
      cases cut
  | case3 attempt delay requests session notDue run requests' uncut
      error failed =>
      have stops := Statuses.get_stopsAtFailure transport session executionId
      rw [Watch.readFrom_of_error notDue uncut failed]
      exact stops.of_sent rfl fun other isError => congrArg some isError
  | case4 attempt delay requests session notDue run requests' uncut status
      succeeded terminal =>
      have stops := Statuses.get_stopsAtFailure transport session executionId
      rw [Watch.readFrom_of_terminal notDue uncut succeeded terminal]
      exact stops.of_sent rfl fun other isError => congrArg some isError
  | case5 attempt delay requests session notDue run requests' uncut status
      succeeded inProgress finish instant cut =>
      have stops := Statuses.get_stopsAtFailure transport session executionId
      rw [Watch.readFrom_of_cutsDelay notDue uncut succeeded inProgress cut]
      exact .of_sent stops rfl fun other isError =>
        (not_isError_of_ok succeeded other isError).elim
  | case6 attempt delay requests session notDue run requests' uncut status
      succeeded inProgress finish waited inductionHypothesis =>
      have stops := Statuses.get_stopsAtFailure transport session executionId
      rw [Watch.readFrom_of_wait notDue uncut succeeded inProgress waited]
      refine .followedBy
        ((Statuses.get_usesUp transport session executionId).report _) ?_
        inductionHypothesis
      exact stops.unfailing (not_isError_of_ok succeeded)

end Parts

/-! ## Calls -/

/-- An answer that is an error, or that ends with one. -/
def Client.Answer.EndsIn :
    Client.Answer →
    QueueError →
    Prop
  | .status result, error => IsError result error
  | .statuses result, error => IsError result error
  | .taken result, error => result.EndsIn error
  | .done result, error => IsError result error
  | .playbooks result, error => IsError result error
  | .watched outcome, error => Watch.Outcome.EndsIn outcome error

theorem Run.StopsAtFailure.answer
    {transport : Transport Message Response}
    {replies : List Response}
    {EndsIn : α → QueueError → Prop}
    {run : Run Message Response α}
    (stops : run.StopsAtFailure transport replies EndsIn)
    {answer : α → Client.Answer}
    (same : ∀ result, (answer result).EndsIn = EndsIn result) :
    (run.map answer).StopsAtFailure transport replies Client.Answer.EndsIn :=
  stops.of_sent rfl fun error endsIn => by
    rw [map_result, same]
    exact endsIn

/--
Whatever is called, the first exchange that fails is the last, and its error the
outcome.
-/
theorem Client.perform_stopsAtFailure
    (client : Client Message Response)
    (route : Client.Route)
    (call : Client.Call)
    (session : Session Response) :
    (client.perform route call session).StopsAtFailure client.transport
      session.replies
      Client.Answer.EndsIn := by
  rw [client.perform_route route]
  cases call with
  | enqueue workflowId =>
      exact (client.transport.fetch_stopsAtFailure session _).answer fun _ =>
        rfl
  | status executionId =>
      exact (Statuses.get_stopsAtFailure client.transport session
        executionId).answer fun _ => rfl
  | statusPage page =>
      exact (Statuses.getPage_stopsAtFailure client.transport session
        page).answer fun _ => rfl
  | allStatuses =>
      exact (Statuses.allFrom_stopsAtFailure client.transport session _ _
        _).answer fun _ => rfl
  | pageStream start limit =>
      cases limit <;>
        exact (Statuses.PageStream.take_stopsAtFailure client.transport session
          _ _).answer fun _ => rfl
  | act executionId action =>
      exact (Statuses.act_stopsAtFailure client.transport session _ _).answer
        fun _ => rfl
  | playbooks =>
      exact (client.transport.fetch_stopsAtFailure session _).answer fun _ =>
        rfl
  | watch executionId cancellation =>
      exact (Watch.readFrom_stopsAtFailure client.transport session _ _ _ _ _
        _).answer fun _ => rfl

end WorkflowQueue
