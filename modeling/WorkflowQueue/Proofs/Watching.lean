import WorkflowQueue.Client.Watch
import WorkflowQueue.Proofs.Script
import WorkflowQueue.Proofs.Waits

namespace WorkflowQueue.Watch

open Scripted (reply)

/-!
# Watches over a script

The replies alone decide where a watch that is never cancelled ends: at the
first reading that fails or shows a terminal state. `EndsAt` names its position,
`Watched` says what a watch has done that ended there, and `untilTerminal_never`
puts both together. The turns of a watch are stated for any transport and any
cancellation.
-/

/-! ## Readings -/

/-- The request for one execution, written out. -/
def readingRequest
    (executionId : String) :
    Request where
  method := .get
  segments := ["workflowqueue", executionId]
  query := []
  body := none

theorem statusRequest_eq
    (executionId : String) :
    Statuses.statusRequest executionId = readingRequest executionId := by
  simp [Statuses.statusRequest, Request.get, Request.ofPath,
    Request.withSegment, Submission.splitPath_queuePath, readingRequest]

/-- What comes of the reading at a position of a script. -/
def readingAt
    (replies : List Reply)
    (position : Nat) :
    Except QueueError WorkflowStatus :=
  Transport.decodeReply (reply replies position).outcome

/--
A reading that ends a watch: an error, or an execution that is completed or
aborted.
-/
def EndsWatch :
    Except QueueError WorkflowStatus →
    Prop
  | .error _ => True
  | .ok status => status.status = .completed ∨ status.status = .aborted

instance : DecidablePred EndsWatch
  | .error _ => .isTrue trivial
  | .ok _ => inferInstanceAs (Decidable (_ ∨ _))

/-- The position of the first reading that ends a watch. -/
structure EndsAt
    (replies : List Reply)
    (last : Nat) : Prop where
  ends : EndsWatch (readingAt replies last)
  goesOn :
    ∀ position, position < last → ¬ EndsWatch (readingAt replies position)

theorem isTerminal_iff
    {state : ExecutionState} :
    state.isTerminal = true ↔ state = .completed ∨ state = .aborted := by
  cases state <;> simp [ExecutionState.isTerminal]

/--
After one reading, a watch goes on over the script without its first reply.
-/
theorem readingAt_tail
    (replies : List Reply)
    (position : Nat) :
    readingAt replies.tail position = readingAt replies (position + 1) := by
  simp only [readingAt, Scripted.reply_tail]

/--
What is read from the head of a script is the reading at its first position.
-/
theorem readingAt_of_get
    {executionId : String}
    {session : Session Reply}
    {reading : Except QueueError WorkflowStatus}
    (read :
      (Statuses.get Scripted.transport executionId session).result = reading) :
    readingAt session.replies 0 = reading := by
  rw [Statuses.get_result] at read
  exact read

namespace EndsAt

/-- The replies determine where a watch ends. -/
theorem unique
    {replies : List Reply}
    {last other : Nat}
    (endsAt : EndsAt replies last)
    (otherEndsAt : EndsAt replies other) :
    other = last := by
  rcases Nat.lt_trichotomy other last with before | same | after
  · exact (endsAt.goesOn other before otherEndsAt.ends).elim
  · exact same
  · exact (otherEndsAt.goesOn last after endsAt.ends).elim

/-- A watch that first sees an execution in progress does not end there. -/
theorem ne_zero
    {replies : List Reply}
    {last : Nat}
    {status : WorkflowStatus}
    (endsAt : EndsAt replies last)
    (reading : readingAt replies 0 = .ok status)
    (inProgress : ¬ status.status.isTerminal = true) :
    last ≠ 0 := by
  intro atOnce
  have ends := endsAt.ends
  rw [atOnce, reading] at ends
  exact inProgress (isTerminal_iff.mpr ends)

/-- A watch that ends with its first reading. -/
theorem of_ends
    {replies : List Reply}
    (ends : EndsWatch (readingAt replies 0)) :
    EndsAt replies 0 where
  ends := ends
  goesOn := by
    intro position before
    exact (Nat.not_lt_zero position before).elim

/--
A watch that goes on after its first reading ends where the rest of it ends.
-/
theorem of_tail
    {replies : List Reply}
    {last : Nat}
    (goesOn : ¬ EndsWatch (readingAt replies 0))
    (endsAt : EndsAt replies.tail last) :
    EndsAt replies (last + 1) where
  ends := by
    rw [← readingAt_tail]
    exact endsAt.ends
  goesOn := by
    intro position before
    cases position with
    | zero =>
        exact goesOn
    | succ position =>
        rw [← readingAt_tail]
        exact endsAt.goesOn position (Nat.lt_of_succ_lt_succ before)

/-- Without its first reply, a script ends a watch one position earlier. -/
theorem tail
    {replies : List Reply}
    {last : Nat}
    (endsAt : EndsAt replies (last + 1)) :
    EndsAt replies.tail last where
  ends := by
    rw [readingAt_tail]
    exact endsAt.ends
  goesOn position before := by
    rw [readingAt_tail]
    exact endsAt.goesOn (position + 1) (Nat.succ_lt_succ before)

end EndsAt

/-! ## One turn of a watch -/

section Turn

variable
  {transport : Transport Message Response}
  {backoff : Backoff}
  {cancellation : Cancellation}
  {executionId : String}
  {attempt : UInt32}
  {delay : Duration}
  {requests : Nat}
  {session : Session Response}

/-- A watch that is cancelled before a reading sends nothing more. -/
theorem readFrom_of_due
    (due : cancellation.isDue requests = true) :
    readFrom transport backoff cancellation executionId attempt delay
        requests session =
      (Run.idle none session).report fun _ =>
        [.pollingCancelled executionId attempt] := by
  rw [readFrom]
  simp [due]

/-- A watch that is cancelled while it waits for a reply drops the reply. -/
theorem readFrom_of_cutsReply
    {instant : Nat}
    (notDue : ¬ cancellation.isDue requests = true)
    (cut :
      let run := Statuses.get transport executionId session
      cancellation.cutsReply? (requests + run.sent.length) session.now
          run.session.now =
        some instant) :
    readFrom transport backoff cancellation executionId attempt delay
        requests session =
      (cutAt instant
          (Statuses.get transport executionId session)).report fun _ =>
        [.pollingCancelled executionId attempt] := by
  rw [readFrom]
  grind

/-- A reading that fails ends a watch with its error. -/
theorem readFrom_of_error
    {error : QueueError}
    (notDue : ¬ cancellation.isDue requests = true)
    (uncut :
      let run := Statuses.get transport executionId session
      cancellation.cutsReply? (requests + run.sent.length) session.now
        run.session.now = none)
    (failed :
      (Statuses.get transport executionId session).result = .error error) :
    readFrom transport backoff cancellation executionId attempt delay
        requests session =
      ((Statuses.get transport executionId session).map some).report fun _ =>
        [.pollFailed executionId attempt error.message] := by
  rw [readFrom]
  grind

/-- A reading that shows a terminal state ends a watch with what was read. -/
theorem readFrom_of_terminal
    {status : WorkflowStatus}
    (notDue : ¬ cancellation.isDue requests = true)
    (uncut :
      let run := Statuses.get transport executionId session
      cancellation.cutsReply? (requests + run.sent.length) session.now
        run.session.now = none)
    (succeeded :
      (Statuses.get transport executionId session).result = .ok status)
    (terminal : status.status.isTerminal = true) :
    readFrom transport backoff cancellation executionId attempt delay
        requests session =
      ((Statuses.get transport executionId session).map some).report fun _ =>
        [.reachedTerminal executionId attempt status.status] := by
  rw [readFrom]
  grind

/-- A watch that is cancelled during a wait sends nothing after it. -/
theorem readFrom_of_cutsDelay
    {status : WorkflowStatus}
    {instant : Nat}
    (notDue : ¬ cancellation.isDue requests = true)
    (uncut :
      let run := Statuses.get transport executionId session
      cancellation.cutsReply? (requests + run.sent.length) session.now
        run.session.now = none)
    (succeeded :
      (Statuses.get transport executionId session).result = .ok status)
    (inProgress : ¬ status.status.isTerminal = true)
    (cut :
      let run := Statuses.get transport executionId session
      cancellation.cutsDelay? (requests + run.sent.length) run.session.now
        (run.session.now + delay.waitMilliseconds) = some instant) :
    readFrom transport backoff cancellation executionId attempt delay
        requests session =
      cutAt instant
        ((Statuses.get transport executionId session).report fun _ =>
          [.stillInProgress executionId attempt status.status
            (reportedDelay delay)]) := by
  rw [readFrom]
  grind

/-- After a wait that is not cut, a watch goes on with a longer one. -/
theorem readFrom_of_wait
    {status : WorkflowStatus}
    (notDue : ¬ cancellation.isDue requests = true)
    (uncut :
      let run := Statuses.get transport executionId session
      cancellation.cutsReply? (requests + run.sent.length) session.now
        run.session.now = none)
    (succeeded :
      (Statuses.get transport executionId session).result = .ok status)
    (inProgress : ¬ status.status.isTerminal = true)
    (waited :
      let run := Statuses.get transport executionId session
      cancellation.cutsDelay? (requests + run.sent.length) run.session.now
        (run.session.now + delay.waitMilliseconds) = none) :
    readFrom transport backoff cancellation executionId attempt delay
        requests session =
      let run := Statuses.get transport executionId session
      (run.report fun _ =>
          [.stillInProgress executionId attempt status.status
            (reportedDelay delay)]).followedBy
        (readFrom transport backoff cancellation executionId (attempt + 1)
          (backoff.nextDelay delay) (requests + run.sent.length)
          {
            replies := run.session.replies
            now := run.session.now + delay.waitMilliseconds
          }) := by
  rw [readFrom]
  grind

end Turn

/-! ## A watch that is never cancelled -/

/--
The instant of the request at a position, for a watch that starts at an instant
with a first wait: each request follows the reply before it after the wait
between them.
-/
def requestInstant
    (backoff : Backoff)
    (delay : Duration)
    (replies : List Reply)
    (start : Nat) :
    Nat →
    Nat
  | 0 => start
  | position + 1 =>
      requestInstant backoff delay replies start position +
        (reply replies position).delay +
        (backoff.nextDelay^[position] delay).waitMilliseconds

/--
After one reading and one wait, the requests follow as in a watch that starts
there.
-/
theorem requestInstant_tail
    (backoff : Backoff)
    (delay : Duration)
    (replies : List Reply)
    (start position : Nat) :
    requestInstant backoff (backoff.nextDelay delay) replies.tail
        (start + (reply replies 0).delay + delay.waitMilliseconds) position =
      requestInstant backoff delay replies start (position + 1) := by
  induction position with
  | zero =>
      simp only [requestInstant, Function.iterate_zero, id_eq]
  | succ position inductionHypothesis =>
      rw [requestInstant, inductionHypothesis, Scripted.reply_tail,
        ← Function.iterate_succ_apply]
      simp only [requestInstant]

/-- No request is sent before the start. -/
theorem start_le_requestInstant
    (backoff : Backoff)
    (delay : Duration)
    (replies : List Reply)
    (start position : Nat) :
    start ≤ requestInstant backoff delay replies start position := by
  induction position with
  | zero =>
      exact Nat.le_refl start
  | succ position inductionHypothesis =>
      rw [requestInstant]
      omega

/--
Every request but the first is sent after the first reply and the wait that
follows it.
-/
theorem second_le_requestInstant
    (backoff : Backoff)
    (delay : Duration)
    (replies : List Reply)
    (start position : Nat) :
    start + (reply replies 0).delay + delay.waitMilliseconds ≤
      requestInstant backoff delay replies start (position + 1) := by
  rw [← requestInstant_tail]
  exact start_le_requestInstant _ _ _ _ _

/--
What a watch has done that ended with the reading at the position `last`: its
result is that reading, and it has sent one request for every position up to it.
-/
structure Watched
    (backoff : Backoff)
    (executionId : String)
    (delay : Duration)
    (session : Session Reply)
    (last : Nat)
    (run : Run Request Reply Outcome) : Prop where
  result : run.result = some (readingAt session.replies last)
  sent : run.sent = (List.range (last + 1)).map fun position => {
    instant := requestInstant backoff delay session.replies session.now position
    message := readingRequest executionId
  }
  finish : run.session.now =
    requestInstant backoff delay session.replies session.now last +
      (reply session.replies last).delay

namespace Watched

variable
  {backoff : Backoff}
  {executionId : String}
  {delay : Duration}
  {session : Session Reply}

/-- A watch that ends with its first reading, whatever it reports. -/
theorem of_last
    (events : Outcome → List Event) :
    Watched backoff executionId delay session 0
      (((Statuses.get Scripted.transport executionId session).map some).report
        events) where
  result := by
    simp [readingAt]
  sent := by
    simp [statusRequest_eq, requestInstant]
  finish := by
    simp [requestInstant]

/-- One reading and one wait in front of a watch. -/
theorem of_tail
    {last : Nat}
    {rest : Run Request Reply Outcome}
    (events : Except QueueError WorkflowStatus → List Event)
    (watched :
      Watched backoff executionId (backoff.nextDelay delay)
        {
          replies := session.replies.tail
          now :=
            session.now + (reply session.replies 0).delay +
              delay.waitMilliseconds
        }
        last rest) :
    Watched backoff executionId delay session (last + 1)
      (((Statuses.get Scripted.transport executionId session).report
        events).followedBy rest) where
  result := by
    rw [Run.followedBy_result, watched.result, readingAt_tail]
  sent := by
    have positions :
        List.range (last + 1 + 1) = 0 :: (List.range (last + 1)).map Nat.succ :=
      List.range_succ_eq_map
    rw [Run.followedBy_sent, watched.sent, positions]
    simp only [requestInstant_tail]
    simp [statusRequest_eq, requestInstant]
  finish := by
    rw [Run.followedBy_session, watched.finish, requestInstant_tail,
      Scripted.reply_tail]

/-- A watch sends one request for every reading. -/
theorem length_sent
    {last : Nat}
    {run : Run Request Reply Outcome}
    (watched : Watched backoff executionId delay session last run) :
    run.sent.length = last + 1 := by
  rw [watched.sent, List.length_map, List.length_range]

/-- The request for the reading at a position. -/
theorem sent_at
    {last position : Nat}
    {run : Run Request Reply Outcome}
    (watched : Watched backoff executionId delay session last run)
    (reached : position ≤ last) :
    run.sent[position]? = some {
      instant :=
        requestInstant backoff delay session.replies session.now position
      message := readingRequest executionId
    } := by
  rw [watched.sent]
  simp [Nat.lt_succ_of_le reached]

/-- A watch does not end before its first reply. -/
theorem first_reply_le
    {last : Nat}
    {run : Run Request Reply Outcome}
    (watched : Watched backoff executionId delay session last run) :
    session.now + (reply session.replies 0).delay ≤ run.session.now := by
  rw [watched.finish]
  cases last with
  | zero =>
      exact Nat.le_refl _
  | succ last =>
      have second :=
        second_le_requestInstant backoff delay session.replies session.now last
      omega

/-- A watch with a second reading does not end before the wait for it. -/
theorem first_wait_le
    {last : Nat}
    {run : Run Request Reply Outcome}
    (watched : Watched backoff executionId delay session last run)
    (goesOn : last ≠ 0) :
    session.now + (reply session.replies 0).delay + delay.waitMilliseconds ≤
      run.session.now := by
  obtain ⟨earlier, rfl⟩ := Nat.exists_eq_succ_of_ne_zero goesOn
  rw [watched.finish]
  exact Nat.le_add_right_of_le
    (second_le_requestInstant backoff delay session.replies session.now earlier)

/-- Before the second request could be sent, only the first one was. -/
theorem sent_before_second
    {last instant : Nat}
    {run : Run Request Reply Outcome}
    (watched : Watched backoff executionId delay session last run)
    (started : session.now < instant)
    (notSecond :
      instant ≤
        session.now + (reply session.replies 0).delay +
          delay.waitMilliseconds) :
    (run.sent.filter fun dispatch => dispatch.instant < instant) =
      [{ instant := session.now, message := readingRequest executionId }] := by
  have first :
      requestInstant backoff delay session.replies session.now 0 =
        session.now :=
    rfl
  have later :
      ∀ position,
        instant ≤
          requestInstant backoff delay session.replies session.now
            (position + 1) := by
    intro position
    have second :=
      second_le_requestInstant backoff delay session.replies
        session.now position
    omega
  rw [watched.sent, List.range_succ_eq_map]
  simp [first, started, later, List.filter_map, Function.comp_def]

end Watched

/--
A watch from one reading on. The induction follows the watch: a reading that
does not end it uses up the first reply, and the positions of the rest are
shifted by one.
-/
theorem readFrom_never
    (backoff : Backoff)
    (executionId : String)
    (attempt : UInt32)
    (delay : Duration)
    (requests : Nat)
    (session : Session Reply) :
    ∃ last,
      EndsAt session.replies last ∧
        Watched backoff executionId delay session last
          (readFrom Scripted.transport backoff .never executionId attempt delay
            requests session) := by
  induction attempt, delay, requests, session using
      readFrom.induct Scripted.transport backoff .never executionId with
  | case1 attempt delay requests session due =>
      cases due
  | case2 attempt delay requests session notDue run requests' instant cut =>
      cases cut
  | case3 attempt delay requests session notDue run requests' uncut
      error failed =>
      have reading := readingAt_of_get failed
      refine ⟨0, .of_ends ?_, ?_⟩
      · rw [reading]
        trivial
      · rw [readFrom_of_error notDue uncut failed]
        exact .of_last _
  | case4 attempt delay requests session notDue run requests' uncut status
      succeeded terminal =>
      have reading := readingAt_of_get succeeded
      refine ⟨0, .of_ends ?_, ?_⟩
      · rw [reading]
        exact isTerminal_iff.mp terminal
      · rw [readFrom_of_terminal notDue uncut succeeded terminal]
        exact .of_last _
  | case5 attempt delay requests session notDue run requests' uncut status
      succeeded inProgress finish instant cut =>
      cases cut
  | case6 attempt delay requests session notDue run requests' uncut status
      succeeded inProgress finish waited inductionHypothesis =>
      have reading := readingAt_of_get succeeded
      obtain ⟨last, endsAt, watched⟩ := inductionHypothesis
      simp only [finish, run, Statuses.get_session] at endsAt watched
      refine ⟨last + 1, .of_tail ?_ endsAt, ?_⟩
      · rw [reading]
        exact fun ends => inProgress (isTerminal_iff.mpr ends)
      · rw [readFrom_of_wait notDue uncut succeeded inProgress waited]
        simp only [Statuses.get_session]
        exact watched.of_tail _

/--
A watch that is never cancelled ends with the first reading that fails or shows
a terminal state, and gives exactly that reading. It sends one request for every
reading up to it, each after the reply before it and the wait between them.
-/
theorem untilTerminal_never
    (backoff : Backoff)
    (initialWhole : backoff.initialDelay.WholeMilliseconds)
    (limitWhole : backoff.maxDelay.WholeMilliseconds)
    (executionId : String)
    (replies : List Reply)
    (start : Nat) :
    ∃ last,
      EndsAt replies last ∧
        (∀ other, EndsAt replies other → other = last) ∧
          let run := untilTerminal Scripted.transport backoff .never executionId
            { replies := replies, now := start }
          run.result = some (readingAt replies last) ∧
            run.sent.map Dispatch.message =
              List.replicate (last + 1) (readingRequest executionId) ∧
            ∀ position, position < last →
              ∃ earlier later,
                run.sent[position]? = some earlier ∧
                  run.sent[position + 1]? = some later ∧
                  Duration.ofMilliseconds later.instant =
                    (Duration.ofMilliseconds
                        (earlier.instant + (reply replies position).delay)).plus
                      (backoff.nextDelay^[position] backoff.initialDelay) := by
  obtain ⟨last, endsAt, watched⟩ :=
    readFrom_never backoff executionId 1 backoff.initialDelay 0
      { replies := replies, now := start }
  refine ⟨last, endsAt, fun other => endsAt.unique, watched.result, ?_, ?_⟩
  · unfold untilTerminal
    rw [watched.sent, List.map_map, Function.comp_def, List.map_const',
      List.length_range]
  · intro position before
    have whole :=
      Backoff.wholeMilliseconds_iterate initialWhole limitWhole position
    refine ⟨_, _, watched.sent_at (Nat.le_of_lt before),
      watched.sent_at before, ?_⟩
    rw [requestInstant, Duration.ofMilliseconds_add, whole.waits_exactly]

/-- A script with an execution in progress and then a refusal. -/
def refusedScript : List Reply := [
  {
    delay := 3
    outcome := .ok "\x7b\"execution_id\":\"e-1\",\"status\":\"running\"\x7d"
  },
  { delay := 4, outcome := .error (.api 503 "unavailable") }
]

theorem refusedScript_endsAt :
    EndsAt refusedScript 1 where
  ends := trivial
  goesOn := by
    intro position before
    have isFirst : position = 0 := by omega
    subst isFirst
    decide +kernel

theorem untilTerminal_never_refused :
    Backoff.standard.initialDelay.WholeMilliseconds ∧
      Backoff.standard.maxDelay.WholeMilliseconds ∧
      let run := untilTerminal Scripted.transport Backoff.standard .never "e-1"
        { replies := refusedScript, now := 0 }
      run.result = some (.error (.api 503 "unavailable")) ∧
        run.sent.map Dispatch.message =
          List.replicate 2 (readingRequest "e-1") := by
  have initialWhole :
      Backoff.standard.initialDelay.WholeMilliseconds := by decide
  have limitWhole : Backoff.standard.maxDelay.WholeMilliseconds := by decide
  obtain ⟨last, _, unique, result, requests, _⟩ :=
    untilTerminal_never Backoff.standard initialWhole limitWhole "e-1"
      refusedScript 0
  have isSecond := unique 1 refusedScript_endsAt
  subst isSecond
  exact ⟨initialWhole, limitWhole, result, requests⟩

end WorkflowQueue.Watch
