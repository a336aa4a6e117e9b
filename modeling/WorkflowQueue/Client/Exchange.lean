import WorkflowQueue.Client.Event

namespace WorkflowQueue

/-!
# Exchanges with the queue

A transport is given as data: what goes out for a request, and what comes of
each reply. Replies are used up in order, one for every message that was sent. A
run records what came of an activity together with everything it sent and
reported, and time is a number of milliseconds that only replies and waits move.
-/

/-- What comes of a reply: a body or an error, some time after the request. -/
structure Reply where
  delay : Nat
  outcome : Except QueueError String

/--
A way to carry requests. `prepare` gives the message that goes out or the error
that keeps it from going out; `answer` says what comes of a reply to it, and
`unanswered` what comes of having no reply left.
-/
structure Transport (Message Response : Type) where
  announce : Request → List Event
  prepare : Request → Except QueueError Message
  answer : Message → Response → Reply
  unanswered : Message → QueueError

/-- The replies that are left and the current instant. -/
structure Session (Response : Type) where
  replies : List Response
  now : Nat

/-- A message and the instant at which it was sent. -/
structure Dispatch (Message : Type) where
  instant : Nat
  message : Message

/--
What an activity did: its result, what it sent and reported, and what it left.
-/
structure Run (Message Response α : Type) where
  result : α
  sent : List (Dispatch Message)
  events : List Event
  session : Session Response

namespace Run

/-- An activity that does nothing. -/
def idle
    (result : α)
    (session : Session Response) :
    Run Message Response α where
  result := result
  sent := []
  events := []
  session := session

/-- The same activity with its result changed. -/
def map
    (change : α → β)
    (run : Run Message Response α) :
    Run Message Response β where
  result := change run.result
  sent := run.sent
  events := run.events
  session := run.session

/-- Events that were reported before the activity. -/
def after
    (events : List Event)
    (run : Run Message Response α) :
    Run Message Response α :=
  { run with events := events ++ run.events }

/-- Events that the result gives rise to. -/
def report
    (run : Run Message Response α)
    (events : α → List Event) :
    Run Message Response α :=
  { run with events := run.events ++ events run.result }

/-- An activity that follows another one. -/
def followedBy
    (first : Run Message Response α)
    (second : Run Message Response β) :
    Run Message Response β where
  result := second.result
  sent := first.sent ++ second.sent
  events := first.events ++ second.events
  session := second.session

section Fields

variable
  (result : α)
  (session : Session Response)
  (change : α → β)
  (earlier : List Event)
  (later : α → List Event)
  (run : Run Message Response α)
  (second : Run Message Response β)

@[simp] theorem idle_result :
  (idle result session : Run Message Response α).result = result := rfl

@[simp] theorem idle_sent :
  (idle result session : Run Message Response α).sent = [] := rfl

@[simp] theorem idle_events :
  (idle result session : Run Message Response α).events = [] := rfl

@[simp] theorem idle_session :
  (idle result session : Run Message Response α).session = session := rfl

@[simp] theorem map_result : (run.map change).result = change run.result := rfl

@[simp] theorem map_sent : (run.map change).sent = run.sent := rfl

@[simp] theorem map_events : (run.map change).events = run.events := rfl

@[simp] theorem map_session : (run.map change).session = run.session := rfl

@[simp] theorem after_result : (run.after earlier).result = run.result := rfl

@[simp] theorem after_sent : (run.after earlier).sent = run.sent := rfl

@[simp] theorem after_events :
  (run.after earlier).events = earlier ++ run.events := rfl

@[simp] theorem after_session : (run.after earlier).session = run.session := rfl

@[simp] theorem report_result : (run.report later).result = run.result := rfl

@[simp] theorem report_sent : (run.report later).sent = run.sent := rfl

@[simp] theorem report_events :
    (run.report later).events = run.events ++ later run.result := rfl

@[simp] theorem report_session : (run.report later).session = run.session := rfl

@[simp] theorem followedBy_result :
  (run.followedBy second).result = second.result := rfl

@[simp] theorem followedBy_sent :
  (run.followedBy second).sent = run.sent ++ second.sent := rfl

@[simp] theorem followedBy_events :
    (run.followedBy second).events = run.events ++ second.events := rfl

@[simp] theorem followedBy_session :
  (run.followedBy second).session = second.session := rfl

end Fields

end Run

namespace Transport

/-- Send one request and wait for its reply. -/
def exchange
    (transport : Transport Message Response)
    (request : Request)
    (session : Session Response) :
    Run Message Response (Except QueueError String) :=
  let events := transport.announce request
  match transport.prepare request with
  | .error error => {
      result := .error error
      sent := []
      events := events
      session := session
    }
  | .ok message =>
      let sent := [{ instant := session.now, message := message }]
      match session.replies with
      | [] => {
          result := .error (transport.unanswered message)
          sent := sent
          events := events
          session := session
        }
      | response :: rest =>
          let reply := transport.answer message response
          {
            result := reply.outcome
            sent := sent
            events := events
            session := { replies := rest, now := session.now + reply.delay }
          }

/-- Read the body of a successful reply as a record. -/
def decodeReply
    [Wire α] :
    Except QueueError String →
    Except QueueError α
  | .error error => .error error
  | .ok body => (decode body).mapError .decode

/-- Send one request and read the body of its reply as a record. -/
def fetch
    [Wire α]
    (transport : Transport Message Response)
    (request : Request)
    (session : Session Response) :
    Run Message Response (Except QueueError α) :=
  (transport.exchange request session).map decodeReply

/-- A successful exchange has used up one reply. -/
theorem exchange_replies_length
    (transport : Transport Message Response)
    (request : Request)
    (session : Session Response)
    {body : String}
    (succeeded : (transport.exchange request session).result = .ok body) :
    (transport.exchange request session).session.replies.length + 1 =
      session.replies.length := by
  unfold exchange at succeeded ⊢
  cases prepared : transport.prepare request with
  | error error => simp [prepared] at succeeded
  | ok message =>
      cases replies : session.replies with
      | nil => simp [prepared, replies] at succeeded
      | cons response rest => simp

/-- A record that was fetched has used up one reply. -/
theorem fetch_replies_length
    [Wire α]
    (transport : Transport Message Response)
    (request : Request)
    (session : Session Response)
    {record : α}
    (succeeded : (transport.fetch request session).result = .ok record) :
    (transport.fetch (α := α) request session).session.replies.length + 1 =
      session.replies.length := by
  cases outcome : (transport.exchange request session).result with
  | error error =>
      simp [fetch, Run.map, decodeReply, outcome] at succeeded
  | ok body =>
      simpa [fetch, Run.map] using
        exchange_replies_length transport request session outcome

end Transport

end WorkflowQueue
