import Mathlib.Data.List.Forall2
import WorkflowQueue.Client.Basic
import WorkflowQueue.Proofs.Listing
import WorkflowQueue.Proofs.Watching

namespace WorkflowQueue

/-!
# Transports that mirror each other

Everything that a client does is made of single exchanges. Where the exchanges
of one transport are images of the exchanges of another, so are whole runs: the
results are the same, and what is sent shows what the other sends, message by
message. A mirror may also shift time, and then a cancellation is counted from
the shifted start. `Mirror.Exchanges` is the law for one exchange, and
`Mirror.Exchanges.performAll` carries it to any list of calls.
-/

namespace Watch.Cancellation

/-- The same cancellation with its instant counted from another start. -/
def since
    (cancellation : Cancellation)
    (start : Nat) :
    Cancellation :=
  { cancellation with atInstant := cancellation.atInstant.map (· - start) }

@[simp] theorem since_isDue
    (cancellation : Cancellation)
    (start requests : Nat) :
    (cancellation.since start).isDue requests = cancellation.isDue requests :=
  rfl

@[simp] theorem since_zero
    (cancellation : Cancellation) :
    cancellation.since 0 = cancellation := by
  simp [since]

/--
A wait is cut at the same point of it, from wherever instants are counted.
-/
theorem instantWithin?_since
    (cancellation : Cancellation)
    (lag start finish : Nat) :
    cancellation.instantWithin? (start + lag) (finish + lag) =
      ((cancellation.since lag).instantWithin? start finish).map (· + lag) := by
  rcases cancellation with ⟨beforeStart, onRequest, _ | instant⟩
  · rfl
  by_cases waits : start < finish
  · have inWait : instant < finish + lag ↔ instant - lag < finish := by omega
    have cutPoint :
        max (start + lag) instant = max start (instant - lag) + lag := by omega
    by_cases isCut : instant - lag < finish
    · simp [instantWithin?, since, waits, inWait, isCut, cutPoint]
    · simp [instantWithin?, since, inWait, isCut]
  · simp [instantWithin?, since, waits]

theorem cutsReply?_since
    (cancellation : Cancellation)
    (lag requests start finish : Nat) :
    cancellation.cutsReply? requests (start + lag) (finish + lag) =
      ((cancellation.since lag).cutsReply? requests start finish).map
        (· + lag) := by
  by_cases cut : (cancellation.isDue requests && decide (start < finish)) = true
  · simp [cutsReply?, cut]
  · simp [cutsReply?, cut, instantWithin?_since]

theorem cutsDelay?_since
    (cancellation : Cancellation)
    (lag requests start finish : Nat) :
    cancellation.cutsDelay? requests (start + lag) (finish + lag) =
      ((cancellation.since lag).cutsDelay? requests start finish).map
        (· + lag) := by
  by_cases cut : cancellation.isDue requests = true
  · simp [cutsDelay?, cut]
  · simp [cutsDelay?, cut, instantWithin?_since]

end Watch.Cancellation

/--
The same call with the instant of its cancellation counted from another start.
-/
def Client.Call.since
    (start : Nat) :
    Client.Call →
    Client.Call
  | .watch executionId cancellation =>
      .watch executionId (cancellation.since start)
  | call => call

@[simp] theorem Client.Call.since_zero
    (call : Client.Call) :
    call.since 0 = call := by
  cases call <;> simp [Client.Call.since]

/-- A call that goes through the client is the call of the part that does it. -/
theorem Client.perform_route
    (client : Client Message Response)
    (route : Client.Route)
    (call : Client.Call)
    (session : Session Response) :
    client.perform route call session =
      client.perform .client call session := by
  cases route <;> cases call <;> rfl

/-! ## Mirrors -/

/--
How one transport mirrors another: the messages that show a message, the replies
that answer alike, the messages for which this holds, and how much later
everything happens.
-/
structure Mirror (Message Response Message' Response' : Type) where
  Shows : Message → Message' → Prop
  Answers : Response → Response' → Prop
  Fits : Message → Prop
  lag : Nat

namespace Mirror

variable {Message Response Message' Response' α β : Type}

/--
Something that was sent shows what the other sent, as much later as the mirror
says.
-/
structure Dispatches
    (mirror : Mirror Message Response Message' Response')
    (dispatch : Dispatch Message)
    (image : Dispatch Message') : Prop where
  instant : image.instant = dispatch.instant + mirror.lag
  message : mirror.Shows dispatch.message image.message

/--
Sessions whose replies answer alike, one as much later as the mirror says.
-/
structure Sessions
    (mirror : Mirror Message Response Message' Response')
    (session : Session Response)
    (image : Session Response') : Prop where
  replies : List.Forall₂ mirror.Answers session.replies image.replies
  now : image.now = session.now + mirror.lag

/-- A run that sends only messages that fit. -/
def Fitting
    (mirror : Mirror Message Response Message' Response')
    (run : Run Message Response α) :
    Prop :=
  ∀ dispatch ∈ run.sent, mirror.Fits dispatch.message

/--
A run and its image: the same result, and everything that was sent is shown, in
order.
-/
structure Runs
    (mirror : Mirror Message Response Message' Response')
    (run : Run Message Response α)
    (image : Run Message' Response' α) : Prop where
  result : image.result = run.result
  sent : List.Forall₂ mirror.Dispatches run.sent image.sent
  sessions : mirror.Sessions run.session image.session

/--
An activity that mirrors a run: from every session that answers like the session
of the run, it is the image of the run, as long as what the run sends fits.
-/
def Mirrors
    (mirror : Mirror Message Response Message' Response')
    (session : Session Response)
    (run : Run Message Response α)
    (activity : Session Response' → Run Message' Response' α) :
    Prop :=
  ∀ imageSession,
    mirror.Sessions session imageSession →
    mirror.Fitting run →
    mirror.Runs run (activity imageSession)

/--
The law for one exchange: whatever is asked, the image mirrors the original.
-/
def Exchanges
    (mirror : Mirror Message Response Message' Response')
    (original : Transport Message Response)
    (image : Transport Message' Response') :
    Prop :=
  ∀ request session,
    mirror.Mirrors session (original.exchange request session)
      (image.exchange request)

/-! ## Runs made of runs -/

section Closure

variable
  {mirror : Mirror Message Response Message' Response'}
  {run : Run Message Response α}
  {image : Run Message' Response' α}

theorem Fitting.first
    {second : Run Message Response β}
    (fitting : mirror.Fitting (run.followedBy second)) :
    mirror.Fitting run :=
  fun dispatch isSent => fitting dispatch (List.mem_append_left _ isSent)

theorem Fitting.second
    {second : Run Message Response β}
    (fitting : mirror.Fitting (run.followedBy second)) :
    mirror.Fitting second :=
  fun dispatch isSent => fitting dispatch (List.mem_append_right _ isSent)

namespace Runs

theorem idle
    {session : Session Response}
    {imageSession : Session Response'}
    (sessions : mirror.Sessions session imageSession)
    (result : α) :
    mirror.Runs (Run.idle result session) (Run.idle result imageSession) where
  result := rfl
  sent := .nil
  sessions := sessions

theorem map
    (runs : mirror.Runs run image)
    (change : α → β) :
    mirror.Runs (run.map change) (image.map change) where
  result := congrArg change runs.result
  sent := runs.sent
  sessions := runs.sessions

theorem report
    (runs : mirror.Runs run image)
    (events imageEvents : α → List Event) :
    mirror.Runs (run.report events) (image.report imageEvents) where
  result := runs.result
  sent := runs.sent
  sessions := runs.sessions

theorem after
    (runs : mirror.Runs run image)
    (events imageEvents : List Event) :
    mirror.Runs (run.after events) (image.after imageEvents) where
  result := runs.result
  sent := runs.sent
  sessions := runs.sessions

theorem followedBy
    {second : Run Message Response β}
    {imageSecond : Run Message' Response' β}
    (runs : mirror.Runs run image)
    (secondRuns : mirror.Runs second imageSecond) :
    mirror.Runs (run.followedBy second) (image.followedBy imageSecond) where
  result := secondRuns.result
  sent := List.rel_append runs.sent secondRuns.sent
  sessions := secondRuns.sessions

theorem cutAt
    (runs : mirror.Runs run image)
    (instant : Nat) :
    mirror.Runs (Watch.cutAt instant run)
      (Watch.cutAt (instant + mirror.lag) image) where
  result := rfl
  sent := runs.sent
  sessions := ⟨runs.sessions.replies, rfl⟩

theorem length_sent
    (runs : mirror.Runs run image) :
    image.sent.length = run.sent.length :=
  runs.sent.length_eq.symm

end Runs

theorem Mirrors.map
    {session : Session Response}
    {activity : Session Response' → Run Message' Response' α}
    (mirrors : mirror.Mirrors session run activity)
    (change : α → β) :
    mirror.Mirrors session (run.map change)
      (fun imageSession => (activity imageSession).map change) :=
  fun _ sessions fitting => (mirrors _ sessions fitting).map change

/-- Waiting for a reply is cut at the same point in a run and in its image. -/
theorem Runs.cutsReply?
    {session : Session Response}
    {imageSession : Session Response'}
    (runs : mirror.Runs run image)
    (sessions : mirror.Sessions session imageSession)
    (cancellation : Watch.Cancellation)
    (requests : Nat) :
    cancellation.cutsReply? (requests + image.sent.length) imageSession.now
        image.session.now =
      ((cancellation.since mirror.lag).cutsReply? (requests + run.sent.length)
        session.now run.session.now).map (· + mirror.lag) := by
  rw [runs.length_sent, sessions.now, runs.sessions.now,
    Watch.Cancellation.cutsReply?_since]

/--
The wait after a reading is cut at the same point in a run and in its image.
-/
theorem Runs.cutsDelay?
    (runs : mirror.Runs run image)
    (cancellation : Watch.Cancellation)
    (requests delay : Nat) :
    cancellation.cutsDelay? (requests + image.sent.length) image.session.now
        (image.session.now + delay) =
      ((cancellation.since mirror.lag).cutsDelay? (requests + run.sent.length)
        run.session.now (run.session.now + delay)).map (· + mirror.lag) := by
  rw [runs.length_sent, runs.sessions.now, Nat.add_right_comm,
    Watch.Cancellation.cutsDelay?_since]

end Closure

/-! ## The activities of a client -/

namespace Exchanges

variable
  {mirror : Mirror Message Response Message' Response'}
  {original : Transport Message Response}
  {image : Transport Message' Response'}
  (exchanges : mirror.Exchanges original image)
  (page : PageNumber)
  (stream : Statuses.PageStream)
  (executionId workflowId : String)
  (action : StatusAction)
  (session : Session Response)

include exchanges

theorem fetch
    [Wire α]
    (request : Request) :
    mirror.Mirrors session (original.fetch (α := α) request session)
      (image.fetch request) :=
  fun _ sessions fitting => (exchanges request session _ sessions fitting).map _

theorem status :
    mirror.Mirrors session (Statuses.get original executionId session)
      (Statuses.get image executionId) :=
  fun _ sessions fitting =>
    (exchanges.fetch session _ _ sessions fitting).after _ _

theorem statusPage :
    mirror.Mirrors session (Statuses.getPage original page session)
      (Statuses.getPage image page) :=
  fun _ sessions fitting =>
    (exchanges.fetch session _ _ sessions fitting).report _ _

theorem act :
    mirror.Mirrors session (Statuses.act original executionId action session)
      (Statuses.act image executionId action) :=
  fun _ sessions fitting =>
    ((exchanges _ session _ sessions fitting).map _).report _ _

theorem enqueue :
    mirror.Mirrors session (Submission.enqueue original workflowId session)
      (Submission.enqueue image workflowId) :=
  fun _ sessions fitting =>
    (exchanges.fetch session _ _ sessions fitting).report _ _

theorem playbooks :
    mirror.Mirrors session (Catalog.playbooks original session)
      (Catalog.playbooks image) :=
  fun _ sessions fitting =>
    (exchanges.fetch session _ _ sessions fitting).report _ _

/-! ### The walk over the pages -/

/--
The induction follows the original walk, whose every page is read in the image
as well.
-/
theorem allFrom
    (pages : UInt32)
    (gathered : List WorkflowStatus) :
    mirror.Mirrors session
      (Statuses.allFrom original page pages gathered session)
      (Statuses.allFrom image page pages gathered) := by
  induction page, pages, gathered, session using
    Statuses.allFrom.induct original with
  | case1 page pages gathered session run error failed =>
      intro imageSession sessions fitting
      rw [Statuses.allFrom_of_error failed] at fitting ⊢
      have runs :=
        exchanges.statusPage page session imageSession sessions fitting
      rw [Statuses.allFrom_of_error (runs.result.trans failed)]
      exact runs.map _
  | case2 page pages gathered session run empty =>
      intro imageSession sessions fitting
      rw [Statuses.allFrom_of_empty empty] at fitting ⊢
      have runs :=
        exchanges.statusPage page session imageSession sessions fitting
      rw [Statuses.allFrom_of_empty (runs.result.trans empty)]
      exact (runs.map _).report _ _
  | case3 page pages gathered session run first rest succeeded isLast =>
      intro imageSession sessions fitting
      rw [Statuses.allFrom_of_last succeeded isLast] at fitting ⊢
      have runs :=
        exchanges.statusPage page session imageSession sessions fitting
      rw [Statuses.allFrom_of_last (runs.result.trans succeeded) isLast]
      exact (runs.map _).report _ _
  | case4 page pages gathered session run first rest succeeded pages' gathered'
      next follows inductionHypothesis =>
      intro imageSession sessions fitting
      rw [Statuses.allFrom_of_next succeeded follows] at fitting ⊢
      have runs :=
        exchanges.statusPage page session imageSession sessions fitting.first
      rw [Statuses.allFrom_of_next (runs.result.trans succeeded) follows]
      exact runs.followedBy (inductionHypothesis _ runs.sessions fitting.second)

/-! ### The stream of pages -/

theorem step :
    mirror.Mirrors session (stream.step original session)
      (stream.step image) := by
  intro imageSession sessions fitting
  rcases stream with ⟨_ | page⟩
  · exact .idle sessions none
  · unfold Statuses.PageStream.step at fitting ⊢
    exact
      (exchanges.statusPage page session imageSession sessions fitting).map _

/-- Every item is taken in the image as well, and leaves the same stream. -/
theorem take
    (limit : Nat) :
    mirror.Mirrors session
      (Statuses.PageStream.take original limit stream session)
      (Statuses.PageStream.take image limit stream) := by
  induction limit generalizing stream session with
  | zero =>
      intro imageSession sessions fitting
      exact .idle sessions _
  | succ limit inductionHypothesis =>
      intro imageSession sessions fitting
      have stepFits : mirror.Fitting (stream.step original session) := by
        intro dispatch isSent
        apply fitting dispatch
        rw [Statuses.PageStream.take]
        split
        · exact isSent
        · exact List.mem_append_left _ isSent
      have runs := exchanges.step stream session imageSession sessions stepFits
      rw [Statuses.PageStream.take] at fitting ⊢
      rw [Statuses.PageStream.take, runs.result]
      split
      · exact runs.map _
      · next item following isTaken =>
          simp only [isTaken] at fitting
          have restRuns :=
            inductionHypothesis following _ _ runs.sessions fitting.second
          exact runs.followedBy (restRuns.map _)

theorem drain :
    mirror.Mirrors session (Statuses.PageStream.drain original stream session)
      (Statuses.PageStream.drain image stream) := by
  intro imageSession sessions fitting
  unfold Statuses.PageStream.drain
  rw [← sessions.replies.length_eq]
  exact exchanges.take stream session _ imageSession sessions fitting

/-! ### Watches -/

/--
The induction follows the original watch. At every turn the image has sent as
many requests, and its cancellation cuts the same wait at the same point.
-/
theorem readFrom
    (backoff : Backoff)
    (cancellation : Watch.Cancellation)
    (attempt : UInt32)
    (delay : Duration)
    (requests : Nat) :
    mirror.Mirrors session
      (Watch.readFrom original backoff (cancellation.since mirror.lag)
        executionId attempt delay requests session)
      (Watch.readFrom image backoff cancellation executionId attempt delay
        requests) := by
  induction attempt, delay, requests, session using
      Watch.readFrom.induct original backoff (cancellation.since mirror.lag)
        executionId with
  | case1 attempt delay requests session due =>
      intro imageSession sessions fitting
      rw [Watch.readFrom_of_due due, Watch.readFrom_of_due (by exact due)]
      exact (Runs.idle sessions none).report _ _
  | case2 attempt delay requests session notDue run requests' instant cut =>
      intro imageSession sessions fitting
      rw [Watch.readFrom_of_cutsReply notDue cut] at fitting ⊢
      rw [Watch.Cancellation.since_isDue] at notDue
      have runs :=
        exchanges.status executionId session imageSession sessions fitting
      have imageCut := runs.cutsReply? sessions cancellation requests
      rw [cut] at imageCut
      rw [Watch.readFrom_of_cutsReply notDue imageCut]
      exact (runs.cutAt instant).report _ _
  | case3 attempt delay requests session notDue run requests' uncut
      error failed =>
      intro imageSession sessions fitting
      rw [Watch.readFrom_of_error notDue uncut failed] at fitting ⊢
      rw [Watch.Cancellation.since_isDue] at notDue
      have runs :=
        exchanges.status executionId session imageSession sessions fitting
      have imageUncut := runs.cutsReply? sessions cancellation requests
      rw [uncut] at imageUncut
      rw [Watch.readFrom_of_error notDue imageUncut (runs.result.trans failed)]
      exact (runs.map _).report _ _
  | case4 attempt delay requests session notDue run requests' uncut status
      succeeded terminal =>
      intro imageSession sessions fitting
      rw [Watch.readFrom_of_terminal notDue uncut succeeded terminal]
        at fitting ⊢
      rw [Watch.Cancellation.since_isDue] at notDue
      have runs :=
        exchanges.status executionId session imageSession sessions fitting
      have imageUncut := runs.cutsReply? sessions cancellation requests
      rw [uncut] at imageUncut
      rw [Watch.readFrom_of_terminal notDue imageUncut
        (runs.result.trans succeeded) terminal]
      exact (runs.map _).report _ _
  | case5 attempt delay requests session notDue run requests' uncut status
      succeeded inProgress finish instant cut =>
      intro imageSession sessions fitting
      rw [Watch.readFrom_of_cutsDelay notDue uncut succeeded inProgress cut]
        at fitting ⊢
      rw [Watch.Cancellation.since_isDue] at notDue
      have runs :=
        exchanges.status executionId session imageSession sessions fitting
      have imageUncut := runs.cutsReply? sessions cancellation requests
      have imageCut :=
        runs.cutsDelay? cancellation requests delay.waitMilliseconds
      rw [uncut] at imageUncut
      rw [cut] at imageCut
      rw [Watch.readFrom_of_cutsDelay notDue imageUncut
        (runs.result.trans succeeded) inProgress imageCut]
      exact (runs.report _ _).cutAt instant
  | case6 attempt delay requests session notDue run requests' uncut status
      succeeded inProgress finish waited inductionHypothesis =>
      intro imageSession sessions fitting
      rw [Watch.readFrom_of_wait notDue uncut succeeded inProgress waited]
        at fitting ⊢
      rw [Watch.Cancellation.since_isDue] at notDue
      have runs :=
        exchanges.status executionId session imageSession sessions fitting.first
      have imageUncut := runs.cutsReply? sessions cancellation requests
      have imageWaited :=
        runs.cutsDelay? cancellation requests delay.waitMilliseconds
      rw [uncut] at imageUncut
      rw [waited] at imageWaited
      rw [Watch.readFrom_of_wait notDue imageUncut (runs.result.trans succeeded)
        inProgress imageWaited]
      simp only [runs.length_sent]
      refine (runs.report _ _).followedBy
        (inductionHypothesis _ ?_ fitting.second)
      refine ⟨runs.sessions.replies, ?_⟩
      rw [runs.sessions.now]
      exact Nat.add_right_comm _ _ _

/-! ### Calls -/

variable (backoff : Backoff)

theorem perform
    (route : Client.Route)
    (call : Client.Call) :
    mirror.Mirrors session
      ((Client.mk original backoff).perform route
        (call.since mirror.lag) session)
      ((Client.mk image backoff).perform route call) := by
  intro imageSession
  rw [Client.perform_route _ route, Client.perform_route _ route]
  cases call with
  | enqueue workflowId => exact (exchanges.enqueue workflowId session).map _ _
  | status executionId => exact (exchanges.status executionId session).map _ _
  | statusPage page => exact (exchanges.statusPage page session).map _ _
  | allStatuses => exact (exchanges.allFrom .first session 0 []).map _ _
  | pageStream start limit =>
      cases limit with
      | none => exact (exchanges.drain (.start start) session).map _ _
      | some limit =>
          exact (exchanges.take (.start start) session limit).map _ _
  | act executionId action =>
      exact (exchanges.act executionId action session).map _ _
  | playbooks => exact (exchanges.playbooks session).map _ _
  | watch executionId cancellation =>
      exact (exchanges.readFrom executionId session backoff cancellation _
        _ _).map _ _

/--
Calls one after another: every run mirrors the run of the same call, because
each call begins in the session that the call before it left.
-/
theorem performAll
    (unshifted : mirror.lag = 0)
    (calls : List (Client.Route × Client.Call))
    (imageSession : Session Response')
    (sessions : mirror.Sessions session imageSession)
    (fitting :
      ∀ run ∈ (Client.mk original backoff).performAll calls session,
        mirror.Fitting run) :
    List.Forall₂ mirror.Runs
      ((Client.mk original backoff).performAll calls session)
      ((Client.mk image backoff).performAll calls imageSession) := by
  induction calls generalizing session imageSession with
  | nil => exact .nil
  | cons entry rest inductionHypothesis =>
      obtain ⟨route, call⟩ := entry
      rw [Client.performAll, List.forall_mem_cons] at fitting
      have runs :=
        exchanges.perform session backoff route call imageSession sessions
      rw [unshifted, Client.Call.since_zero] at runs
      refine .cons (runs fitting.1) ?_
      exact inductionHypothesis _ _ (runs fitting.1).sessions fitting.2

end Exchanges

end Mirror

end WorkflowQueue
