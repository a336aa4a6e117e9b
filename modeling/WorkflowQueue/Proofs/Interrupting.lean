import WorkflowQueue.Proofs.Cancelling

namespace WorkflowQueue.Watch

open Scripted (reply)

/-!
# Watches cancelled by their own requests

A watch may be cancelled at the very moment at which one of its requests goes
out. Up to that request it is the watch that is left alone. With the request it
ends: a reply that is there at once is still used where it ends the watch, and
nothing else is waited for. `CutOnRequest` states this for two runs, and it
holds of every watch and every request.
-/

/-! ## Cancelling on a request -/

namespace Cancellation

/-- A watch that is cancelled by its request of a number, counted from one. -/
def ofRequest
    (number : Nat) :
    Cancellation where
  beforeStart := false
  onRequest := some number
  atInstant := none

section Request

variable
  {cancellation : Cancellation}
  {number requests start finish : Nat}

/-- The requests before the one that cancels leave a watch alone. -/
theorem ofRequest_notDue
    (before : requests < number) :
    ¬(ofRequest number).isDue requests = true := by
  simp [isDue, ofRequest, Nat.not_le.mpr before]

/-- From the request that cancels, a watch is cancelled. -/
theorem ofRequest_due :
    (ofRequest (requests + 1)).isDue (requests + 1) = true := by
  simp [isDue, ofRequest]

/--
Without an instant, a watch that is not cancelled yet waits for any reply.
-/
theorem cutsReply?_of_notDue
    (noInstant : cancellation.atInstant = none)
    (notDue : ¬cancellation.isDue requests = true) :
    cancellation.cutsReply? requests start finish = none := by
  simp [cutsReply?, instantWithin?, noInstant, notDue]

/--
Without an instant, a watch that is not cancelled yet waits between two
readings.
-/
theorem cutsDelay?_of_notDue
    (noInstant : cancellation.atInstant = none)
    (notDue : ¬cancellation.isDue requests = true) :
    cancellation.cutsDelay? requests start finish = none := by
  simp [cutsDelay?, instantWithin?, noInstant, notDue]

/-- A watch that is cancelled waits for no reply. -/
theorem cutsReply?_of_due
    (due : cancellation.isDue requests = true)
    (outstanding : start < finish) :
    cancellation.cutsReply? requests start finish = some start := by
  simp [cutsReply?, due, outstanding]

/-- A reply that is there at once needs no waiting. -/
theorem cutsReply?_at_once :
    cancellation.cutsReply? requests start start = none := by
  cases instant : cancellation.atInstant <;>
    simp [cutsReply?, instantWithin?, instant]

/-- A watch that is cancelled does not wait between two readings. -/
theorem cutsDelay?_of_due
    (due : cancellation.isDue requests = true) :
    cancellation.cutsDelay? requests start finish = some start := by
  simp [cutsDelay?, due]

theorem never_notDue :
    ¬never.isDue requests = true :=
  Bool.false_ne_true

end Request

end Cancellation

/-! ## The request that cancels -/

/--
What a watch gives that is cancelled by the request at a position: the reading
there, where it ends the watch and its reply is there at once, and otherwise
nothing.
-/
def outcomeAtOnce
    (replies : List Reply)
    (position : Nat) :
    Outcome :=
  if (reply replies position).delay = 0 ∧
    EndsWatch (readingAt replies position) then
    some (readingAt replies position)
  else none

/--
How a run that is cancelled by its request at a position compares with the same
run left alone: it is the same run where that sends no such request, and
otherwise it ends with the request, at once and with what is there at once.
-/
structure CutOnRequest
    (replies : List Reply)
    (position : Nat)
    (uncut cut : Run Request Reply Outcome) : Prop where
  before : uncut.sent.length ≤ position → cut = uncut
  after :
    ∀ dispatch, uncut.sent[position]? = some dispatch →
      cut.sent = uncut.sent.take (position + 1) ∧
        cut.sent.length = position + 1 ∧
        cut.session.now = dispatch.instant ∧
        cut.result = outcomeAtOnce replies position

/-- One request in front of both runs moves the position by one. -/
theorem CutOnRequest.of_tail
    {replies : List Reply}
    {position : Nat}
    {first : Run Request Reply α}
    {dispatch : Dispatch Request}
    {uncut cut : Run Request Reply Outcome}
    (single : first.sent = [dispatch])
    (cutOnRequest : CutOnRequest replies.tail position uncut cut) :
    CutOnRequest replies (position + 1) (first.followedBy uncut)
      (first.followedBy cut) where
  before := by
    intro few
    rw [Run.followedBy_sent, single, List.singleton_append,
      List.length_cons] at few
    rw [cutOnRequest.before (Nat.le_of_succ_le_succ few)]
  after := by
    intro later sentAt
    rw [Run.followedBy_sent, single, List.singleton_append,
      List.getElem?_cons_succ] at sentAt
    obtain ⟨sent, length, finish, result⟩ := cutOnRequest.after later sentAt
    refine ⟨?_, ?_, finish, ?_⟩
    · rw [Run.followedBy_sent, Run.followedBy_sent, single, sent]
      rfl
    · rw [Run.followedBy_sent, single, List.singleton_append,
        List.length_cons, length]
    · rw [Run.followedBy_result, result]
      simp only [outcomeAtOnce, Scripted.reply_tail, readingAt_tail]

/-- A run that is over with its first request is not changed by a later one. -/
theorem CutOnRequest.of_single
    {replies : List Reply}
    {dispatch : Dispatch Request}
    {uncut : Run Request Reply Outcome}
    (position : Nat)
    (single : uncut.sent = [dispatch]) :
    CutOnRequest replies (position + 1) uncut uncut where
  before := fun _ => rfl
  after := by
    intro later sentAt
    rw [single, List.getElem?_cons_succ] at sentAt
    cases sentAt

section Turn

variable
  (backoff : Backoff)
  (executionId : String)
  (attempt : UInt32)
  (delay : Duration)
  (requests : Nat)
  (session : Session Reply)

/-- A watch that is cancelled by its next request sends it and ends with it. -/
theorem readFrom_ofRequest_first :
    let run :=
      readFrom Scripted.transport backoff (.ofRequest (requests + 1))
        executionId attempt delay requests session
    run.sent =
        [{ instant := session.now, message := readingRequest executionId }] ∧
      run.session.now = session.now ∧
      run.result = outcomeAtOnce session.replies 0 := by
  intro run
  have notDue := Cancellation.ofRequest_notDue (Nat.lt_succ_self requests)
  have due := @Cancellation.ofRequest_due requests
  rcases Nat.eq_zero_or_pos (reply session.replies 0).delay with
    atOnce | delayed
  · have uncut :
        let run := Statuses.get Scripted.transport executionId session
        (Cancellation.ofRequest (requests + 1)).cutsReply?
          (requests + run.sent.length) session.now run.session.now = none := by
      simp only [Statuses.get_session, atOnce]
      exact Cancellation.cutsReply?_at_once
    cases read :
      (Statuses.get Scripted.transport executionId session).result with
    | error error =>
        have reading := readingAt_of_get read
        have ends : EndsWatch (readingAt session.replies 0) := by
          rw [reading]
          trivial
        simp only [run, readFrom_of_error notDue uncut read,
          outcomeAtOnce, atOnce, ends]
        simp [statusRequest_eq, atOnce, readingAt]
    | ok status =>
        have reading := readingAt_of_get read
        by_cases terminal : status.status.isTerminal = true
        · have ends : EndsWatch (readingAt session.replies 0) := by
            rw [reading]
            exact isTerminal_iff.mp terminal
          simp only [run, readFrom_of_terminal notDue uncut read terminal,
            outcomeAtOnce, atOnce, ends]
          simp [statusRequest_eq, atOnce, readingAt]
        · have goesOn : ¬EndsWatch (readingAt session.replies 0) := by
            rw [reading]
            exact fun ends => terminal (isTerminal_iff.mpr ends)
          have cut :
              let run := Statuses.get Scripted.transport executionId session
              (Cancellation.ofRequest (requests + 1)).cutsDelay?
                  (requests + run.sent.length) run.session.now
                  (run.session.now + delay.waitMilliseconds) =
                  some session.now := by
            simp only [Statuses.get_session, Statuses.get_sent, atOnce]
            exact Cancellation.cutsDelay?_of_due due
          simp only [run, readFrom_of_cutsDelay notDue uncut read terminal cut,
            outcomeAtOnce, goesOn]
          simp [cutAt, statusRequest_eq]
  · have cut :
        let run := Statuses.get Scripted.transport executionId session
        (Cancellation.ofRequest (requests + 1)).cutsReply?
          (requests + run.sent.length) session.now run.session.now =
            some session.now := by
      simp only [Statuses.get_session, Statuses.get_sent]
      exact Cancellation.cutsReply?_of_due due (Nat.lt_add_of_pos_right delayed)
    simp only [run, readFrom_of_cutsReply notDue cut, outcomeAtOnce,
      Nat.ne_of_gt delayed]
    simp [cutAt, statusRequest_eq]

end Turn

/--
A watch cancelled by its request at a position, compared from one reading on
with the same watch left alone. The induction is on the position: before it is
reached, both watches take the same turn, and one request leads to the next
position.
-/
theorem readFrom_ofRequest
    (backoff : Backoff)
    (executionId : String)
    (position : Nat)
    (attempt : UInt32)
    (delay : Duration)
    (requests : Nat)
    (session : Session Reply) :
    CutOnRequest session.replies position
      (readFrom Scripted.transport backoff .never executionId attempt delay
        requests session)
      (readFrom Scripted.transport backoff
        (.ofRequest (requests + position + 1)) executionId attempt delay
        requests session) := by
  induction position generalizing attempt delay requests session with
  | zero =>
      obtain ⟨last, -, watched⟩ :=
        readFrom_never backoff executionId attempt delay requests session
      obtain ⟨sent, finish, result⟩ :=
        readFrom_ofRequest_first backoff executionId attempt delay
          requests session
      have first := watched.sent_at (Nat.zero_le last)
      refine ⟨?_, ?_⟩
      · intro none
        rw [watched.length_sent] at none
        omega
      · intro dispatch sentAt
        cases first.symm.trans sentAt
        refine ⟨?_, ?_, finish, result⟩
        · rw [Nat.add_zero, sent, List.take_one, List.head?_eq_getElem?, first]
          rfl
        · rw [Nat.add_zero, sent]
          rfl
  | succ position inductionHypothesis =>
      let run := Statuses.get Scripted.transport executionId session
      let cancelled := Cancellation.ofRequest (requests + (position + 1) + 1)
      have single : run.sent =
          [{
            instant := session.now
            message := Statuses.statusRequest executionId
          }] :=
        Statuses.get_sent executionId session
      have notDue : ¬cancelled.isDue requests = true :=
        Cancellation.ofRequest_notDue (by omega)
      have notDueNext :
          ¬cancelled.isDue (requests + run.sent.length) = true := by
        rw [single]
        exact Cancellation.ofRequest_notDue (by simp)
      have uncut :
          cancelled.cutsReply? (requests + run.sent.length) session.now
            run.session.now = none :=
        Cancellation.cutsReply?_of_notDue rfl notDueNext
      have neverUncut :
          Cancellation.never.cutsReply? (requests + run.sent.length) session.now
            run.session.now = none :=
        Cancellation.cutsReply?_of_notDue rfl Cancellation.never_notDue
      have sameNumber :
          cancelled =
            .ofRequest (requests + run.sent.length + position + 1) := by
        rw [single, List.length_singleton, Nat.add_assoc requests 1,
          Nat.add_comm 1]
      cases read :
        (Statuses.get Scripted.transport executionId session).result with
      | error error =>
          rw [readFrom_of_error Cancellation.never_notDue neverUncut read,
            readFrom_of_error notDue uncut read]
          exact .of_single position single
      | ok status =>
          by_cases terminal : status.status.isTerminal = true
          · rw [readFrom_of_terminal Cancellation.never_notDue neverUncut read
              terminal, readFrom_of_terminal notDue uncut read terminal]
            exact .of_single position single
          · rw [readFrom_of_wait Cancellation.never_notDue neverUncut read
              terminal (Cancellation.cutsDelay?_of_notDue rfl
                Cancellation.never_notDue),
              readFrom_of_wait notDue uncut read terminal
                (Cancellation.cutsDelay?_of_notDue rfl notDueNext)]
            refine .of_tail single ?_
            have left : run.session.replies = session.replies.tail := by
              simp [run]
            rw [sameNumber, ← left]
            exact inductionHypothesis _ _ _
              {
                replies := run.session.replies
                now := run.session.now + delay.waitMilliseconds
              }

/--
A watch that is cancelled at the moment at which one of its requests goes out.
Where the watch left alone sends no such request, both are the same. Otherwise
exactly the requests up to that one are sent, and the watch ends at its instant:
with what its reply shows, where that is there at once and ends the watch, and
with nothing in every other case.
-/
theorem untilTerminal_ofRequest
    (backoff : Backoff)
    (executionId : String)
    (replies : List Reply)
    (start position : Nat) :
    let session : Session Reply := { replies := replies, now := start }
    CutOnRequest replies position
      (untilTerminal Scripted.transport backoff .never executionId session)
      (untilTerminal Scripted.transport backoff (.ofRequest (position + 1))
        executionId session) := by
  intro session
  have compared :=
    readFrom_ofRequest backoff executionId position 1
      backoff.initialDelay 0 session
  rw [Nat.zero_add] at compared
  exact compared

end WorkflowQueue.Watch
