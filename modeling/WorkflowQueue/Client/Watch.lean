import WorkflowQueue.Backoff
import WorkflowQueue.Client.Statuses

namespace WorkflowQueue.Watch

/-!
# Watching an execution

An execution is read again and again, with a growing wait after each reading,
until it reaches a terminal state. The first reading that fails ends the watch
with its error. A watch can be cancelled: before it starts, by one of its own
requests, or at an instant.

Whoever waits is asked at every turn whether it was cancelled before it is asked
whether its wait is over. A reply that is there at once is therefore still used,
while one that takes time is dropped. An instant that falls on the very end of a
wait comes too late to cut that wait.
-/

/--
When a watch is cancelled: before it starts, once so many requests were sent, or
at an instant. The instant is never one before the start of the watch. Whoever
cancels by then has cancelled before the start, and no request goes out at all.
-/
structure Cancellation where
  beforeStart : Bool
  onRequest : Option Nat
  atInstant : Option Nat
  deriving DecidableEq

namespace Cancellation

/-- A watch that is never cancelled. -/
def never : Cancellation where
  beforeStart := false
  onRequest := none
  atInstant := none

/-- Whether the watch is cancelled once `requests` requests were sent. -/
def isDue
    (cancellation : Cancellation)
    (requests : Nat) :
    Bool :=
  cancellation.beforeStart ||
    cancellation.onRequest.any fun limit => limit ≤ requests && 0 < limit

/-- The instant at which a wait is cut, where it is cut by an instant. -/
def instantWithin?
    (cancellation : Cancellation)
    (start finish : Nat) :
    Option Nat :=
  match cancellation.atInstant with
  | none => none
  | some instant =>
      if start < finish ∧ instant < finish then
        some (max start instant) else none

/--
The instant at which waiting for a reply is cut. A reply without delay is not
waited for.
-/
def cutsReply?
    (cancellation : Cancellation)
    (requests start finish : Nat) :
    Option Nat :=
  if cancellation.isDue requests && start < finish then some start
  else cancellation.instantWithin? start finish

/-- The instant at which the wait between two readings is cut. -/
def cutsDelay?
    (cancellation : Cancellation)
    (requests start finish : Nat) :
    Option Nat :=
  if cancellation.isDue requests then some start
  else cancellation.instantWithin? start finish

end Cancellation

/-- What a watch gives: nothing when it was cancelled. -/
abbrev Outcome := Option (Except QueueError WorkflowStatus)

/-- A watch that is cut at an instant. -/
def cutAt
    (instant : Nat)
    (run : Run Message Response α) :
    Run Message Response Outcome where
  result := none
  sent := run.sent
  events := run.events
  session := { replies := run.session.replies, now := instant }

/-- The milliseconds of a wait as they are reported. -/
def reportedDelay
    (delay : Duration) :
    UInt64 :=
  UInt64.ofNat delay.milliseconds

/--
The watch from one reading on: the reading's number, the wait after it, and how
many requests were sent before it.
-/
def readFrom
    (transport : Transport Message Response)
    (backoff : Backoff)
    (cancellation : Cancellation)
    (executionId : String)
    (attempt : UInt32)
    (delay : Duration)
    (requests : Nat)
    (session : Session Response) :
    Run Message Response Outcome :=
  if cancellation.isDue requests then
    (Run.idle none session).report fun _ =>
      [.pollingCancelled executionId attempt]
  else
    let run := Statuses.get transport executionId session
    let requests := requests + run.sent.length
    match cancellation.cutsReply? requests session.now run.session.now with
    | some instant =>
        (cutAt instant run).report fun _ =>
          [.pollingCancelled executionId attempt]
    | none =>
        match _ : run.result with
        | .error error =>
            (run.map some).report fun _ =>
              [.pollFailed executionId attempt error.message]
        | .ok status =>
            if status.status.isTerminal then
              (run.map some).report fun _ =>
                [.reachedTerminal executionId attempt status.status]
            else
              let waiting := run.report fun _ =>
                [.stillInProgress executionId attempt status.status
                  (reportedDelay delay)]
              let finish := run.session.now + delay.waitMilliseconds
              match cancellation.cutsDelay? requests run.session.now finish with
              | some instant => cutAt instant waiting
              | none =>
                  waiting.followedBy <|
                    readFrom transport backoff cancellation executionId
                      (attempt + 1) (backoff.nextDelay delay) requests
                      { replies := run.session.replies, now := finish }
termination_by session.replies.length
decreasing_by
  have used :=
    Statuses.get_replies_length transport executionId session (by assumption)
  omega

/-- Watch an execution until it ends. -/
def untilTerminal
    (transport : Transport Message Response)
    (backoff : Backoff)
    (cancellation : Cancellation)
    (executionId : String)
    (session : Session Response) :
    Run Message Response Outcome :=
  readFrom transport backoff cancellation executionId 1
    backoff.initialDelay 0 session

end WorkflowQueue.Watch
