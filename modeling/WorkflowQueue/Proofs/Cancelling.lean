import WorkflowQueue.Proofs.Watching

namespace WorkflowQueue.Watch

open Scripted (reply)

/-!
# Watches that are cancelled

A watch cancelled at an instant is compared with the same watch left alone.
Where nothing else happens at that instant, cancelling cuts the watch there and
changes nothing before it: `CutAt` states this for two runs, and
`untilTerminal_ofInstant` proves it of every watch.
-/

/-! ## Cancelling at an instant -/

namespace Cancellation

/-- A watch that is cancelled at an instant. -/
def ofInstant
    (instant : Nat) :
    Cancellation where
  beforeStart := false
  onRequest := none
  atInstant := some instant

section Instant

variable
  {instant requests start finish : Nat}

/-- An instant alone never cancels a watch at the start of a turn. -/
theorem ofInstant_notDue :
    ¬ (ofInstant instant).isDue requests = true :=
  Bool.false_ne_true

/-- What is over before the instant is not cut. -/
theorem instantWithin?_before
    (finished : finish ≤ instant) :
    (ofInstant instant).instantWithin? start finish = none := by
  simp [instantWithin?, ofInstant, Nat.not_lt.mpr finished]

/-- What is going on at the instant is cut at the instant. -/
theorem instantWithin?_during
    (begun : start ≤ instant)
    (notOver : instant < finish) :
    (ofInstant instant).instantWithin? start finish = some instant := by
  simp [instantWithin?, ofInstant, Nat.lt_of_le_of_lt begun notOver, notOver,
    Nat.max_eq_right begun]

theorem ofInstant_cutsReply? :
    (ofInstant instant).cutsReply? requests start finish =
      (ofInstant instant).instantWithin? start finish := by
  simp [cutsReply?, ofInstant_notDue]

theorem ofInstant_cutsDelay? :
    (ofInstant instant).cutsDelay? requests start finish =
      (ofInstant instant).instantWithin? start finish := by
  simp [cutsDelay?, ofInstant_notDue]

end Instant

end Cancellation

/--
Nothing happens in a run at an instant: no request is sent at it, and no reply
to one arrives. A wait between two requests ends when the second one is sent.
-/
def QuietAt
    (replies : List Reply)
    (sent : List (Dispatch Request))
    (instant : Nat) :
    Prop :=
  ∀ position dispatch,
    sent[position]? = some dispatch →
      dispatch.instant ≠ instant ∧
        dispatch.instant + (reply replies position).delay ≠ instant

namespace QuietAt

variable
  {replies : List Reply}
  {first : Dispatch Request}
  {rest : List (Dispatch Request)}
  {instant : Nat}

/-- The first reply does not arrive at a quiet instant. -/
theorem first_reply
    (quiet : QuietAt replies (first :: rest) instant) :
    first.instant + (reply replies 0).delay ≠ instant :=
  (quiet 0 first rfl).2

/-- An instant that is quiet in a run is quiet in the rest of the run. -/
theorem tail
    (quiet : QuietAt replies (first :: rest) instant) :
    QuietAt replies.tail rest instant := by
  intro position dispatch sentAt
  rw [Scripted.reply_tail]
  exact quiet (position + 1) dispatch sentAt

/--
An instant is quiet in a watch when no request and no reply of it falls on the
instant.
-/
theorem of_watched
    {backoff : Backoff}
    {executionId : String}
    {delay : Duration}
    {session : Session Reply}
    {last : Nat}
    {run : Run Request Reply Outcome}
    (watched : Watched backoff executionId delay session last run)
    (apart :
      ∀ position, position ≤ last →
        let sentAt :=
          requestInstant backoff delay session.replies session.now position
        sentAt ≠ instant ∧
          sentAt + (reply session.replies position).delay ≠ instant) :
    QuietAt session.replies run.sent instant := by
  intro position dispatch sentAt
  rcases Nat.lt_or_ge last position with beyond | reached
  · have tooFew : run.sent.length ≤ position := by
      rw [watched.length_sent]
      exact beyond
    rw [List.getElem?_eq_none tooFew] at sentAt
    cases sentAt
  · rw [watched.sent_at reached] at sentAt
    cases sentAt
    exact apart position reached

end QuietAt

/--
How a run that is cut at an instant compares with the same run left alone: it is
the same run where that was over before the instant, and otherwise it ends at
the instant with nothing, having sent what the other one sent before the
instant.
-/
structure CutAt
    (instant : Nat)
    (uncut cut : Run Request Reply Outcome) : Prop where
  before : uncut.session.now < instant → cut = uncut
  after :
    instant ≤ uncut.session.now →
      cut.result = none ∧
        cut.session.now = instant ∧
        cut.sent = uncut.sent.filter fun dispatch => dispatch.instant < instant

namespace CutAt

variable
  {instant : Nat}
  {uncut cut : Run Request Reply Outcome}

/-- A run that was over before the instant is not changed. -/
theorem of_over
    (finished : uncut.session.now < instant) :
    CutAt instant uncut uncut where
  before := fun _ => rfl
  after := fun notOver => (Nat.not_lt.mpr notOver finished).elim

/-- A run that was not over at the instant is cut there. -/
theorem of_cut
    (notOver : instant ≤ uncut.session.now)
    (nothing : cut.result = none)
    (finish : cut.session.now = instant)
    (sent : (uncut.sent.filter fun dispatch => dispatch.instant < instant) =
      cut.sent) :
    CutAt instant uncut cut where
  before := fun finished => (Nat.not_lt.mpr notOver finished).elim
  after := fun _ => ⟨nothing, finish, sent.symm⟩

/-- What both runs have done before the instant does not matter. -/
theorem followedBy
    {first : Run Request Reply α}
    (early : ∀ dispatch ∈ first.sent, dispatch.instant < instant)
    (cutAt : CutAt instant uncut cut) :
    CutAt instant (first.followedBy uncut) (first.followedBy cut) where
  before := by
    intro finished
    rw [cutAt.before finished]
  after := by
    intro notOver
    obtain ⟨nothing, finish, sent⟩ := cutAt.after notOver
    refine ⟨nothing, finish, ?_⟩
    have kept :
        (first.sent.filter fun dispatch => dispatch.instant < instant) =
          first.sent := by
      simpa using early
    rw [Run.followedBy_sent, Run.followedBy_sent,
      List.filter_append, kept, sent]

end CutAt

section Cut

variable
  {backoff : Backoff}
  {executionId : String}
  {attempt : UInt32}
  {delay : Duration}
  {requests : Nat}
  {session : Session Reply}
  {instant : Nat}

/-- A first reply that has arrived by the instant is used. -/
theorem ofInstant_keepsReply
    (arrived : session.now + (reply session.replies 0).delay ≤ instant) :
    let run := Statuses.get Scripted.transport executionId session
    (Cancellation.ofInstant instant).cutsReply? (requests + run.sent.length)
      session.now run.session.now = none := by
  simp only [Statuses.get_session, Cancellation.ofInstant_cutsReply?]
  exact Cancellation.instantWithin?_before arrived

/-- A watch that is cancelled while the first reply is outstanding. -/
theorem readFrom_cut_in_reply
    (started : session.now < instant)
    (outstanding : instant < session.now + (reply session.replies 0).delay) :
    CutAt instant
      (readFrom Scripted.transport backoff .never executionId attempt delay
        requests session)
      (readFrom Scripted.transport backoff (.ofInstant instant) executionId
        attempt delay requests session) := by
  obtain ⟨last, _, watched⟩ :=
    readFrom_never backoff executionId attempt delay requests session
  have cut :
      let run := Statuses.get Scripted.transport executionId session
      (Cancellation.ofInstant instant).cutsReply? (requests + run.sent.length)
        session.now run.session.now = some instant := by
    simp only [Statuses.get_session, Cancellation.ofInstant_cutsReply?]
    exact Cancellation.instantWithin?_during (Nat.le_of_lt started) outstanding
  rw [readFrom_of_cutsReply Cancellation.ofInstant_notDue cut]
  refine .of_cut ?_ rfl rfl ?_
  · have finish := watched.first_reply_le
    omega
  · rw [watched.sent_before_second started (by omega)]
    simp [cutAt, statusRequest_eq]

/-- A watch that is cancelled during the wait after the first reply. -/
theorem readFrom_cut_in_wait
    {status : WorkflowStatus}
    (started : session.now < instant)
    (arrived : session.now + (reply session.replies 0).delay ≤ instant)
    (waiting :
      instant <
        session.now + (reply session.replies 0).delay + delay.waitMilliseconds)
    (succeeded :
      (Statuses.get Scripted.transport executionId session).result = .ok status)
    (inProgress : ¬ status.status.isTerminal = true) :
    CutAt instant
      (readFrom Scripted.transport backoff .never executionId attempt delay
        requests session)
      (readFrom Scripted.transport backoff (.ofInstant instant) executionId
        attempt delay requests session) := by
  obtain ⟨last, endsAt, watched⟩ :=
    readFrom_never backoff executionId attempt delay requests session
  have cut :
      let run := Statuses.get Scripted.transport executionId session
      (Cancellation.ofInstant instant).cutsDelay? (requests + run.sent.length)
        run.session.now (run.session.now + delay.waitMilliseconds) =
          some instant := by
    simp only [Statuses.get_session, Cancellation.ofInstant_cutsDelay?]
    exact Cancellation.instantWithin?_during arrived waiting
  rw [readFrom_of_cutsDelay Cancellation.ofInstant_notDue
    (ofInstant_keepsReply arrived) succeeded inProgress cut]
  refine .of_cut ?_ rfl rfl ?_
  · have goesOn := endsAt.ne_zero (readingAt_of_get succeeded) inProgress
    exact Nat.le_trans (Nat.le_of_lt waiting) (watched.first_wait_le goesOn)
  · rw [watched.sent_before_second started (Nat.le_of_lt waiting)]
    simp [cutAt, statusRequest_eq]

/-- A watch goes on after a reply and a wait that are over by the instant. -/
theorem readFrom_past_wait
    {status : WorkflowStatus}
    (finished :
      session.now + (reply session.replies 0).delay +
        delay.waitMilliseconds ≤ instant)
    (succeeded :
      (Statuses.get Scripted.transport executionId session).result = .ok status)
    (inProgress : ¬ status.status.isTerminal = true) :
    readFrom Scripted.transport backoff (.ofInstant instant) executionId attempt
        delay requests session =
      let run := Statuses.get Scripted.transport executionId session
      (run.report fun _ =>
          [.stillInProgress executionId attempt status.status
            (reportedDelay delay)]).followedBy
        (readFrom Scripted.transport backoff (.ofInstant instant) executionId
            (attempt + 1) (backoff.nextDelay delay)
            (requests + run.sent.length) {
            replies := run.session.replies
            now := run.session.now + delay.waitMilliseconds
          }) := by
  have arrived := Nat.le_of_add_right_le finished
  have waited :
      let run := Statuses.get Scripted.transport executionId session
      (Cancellation.ofInstant instant).cutsDelay? (requests + run.sent.length)
        run.session.now (run.session.now + delay.waitMilliseconds) = none := by
    simp only [Statuses.get_session, Cancellation.ofInstant_cutsDelay?]
    exact Cancellation.instantWithin?_before finished
  exact readFrom_of_wait Cancellation.ofInstant_notDue
    (ofInstant_keepsReply arrived) succeeded inProgress waited

end Cut

/--
A watch cancelled at an instant at which nothing happens, compared from one
reading on with the same watch left alone. The induction follows the watch that
is left alone: as long as its first reply and the wait after it are over before
the instant, both watches take the same turn.
-/
theorem readFrom_ofInstant
    (backoff : Backoff)
    (executionId : String)
    (instant : Nat)
    (attempt : UInt32)
    (delay : Duration)
    (requests : Nat)
    (session : Session Reply)
    (started : session.now < instant)
    (quiet :
      QuietAt session.replies
        (readFrom Scripted.transport backoff .never executionId attempt delay
          requests session).sent
        instant) :
    CutAt instant
      (readFrom Scripted.transport backoff .never executionId attempt delay
        requests session)
      (readFrom Scripted.transport backoff (.ofInstant instant) executionId
        attempt delay requests session) := by
  induction attempt, delay, requests, session using
      readFrom.induct Scripted.transport backoff .never executionId with
  | case1 attempt delay requests session due =>
      cases due
  | case2 attempt delay requests session notDue run requests' instant cut =>
      cases cut
  | case3 attempt delay requests session notDue run requests' uncut
      error failed =>
      rcases Nat.lt_or_ge instant
        (session.now + (reply session.replies 0).delay) with
        outstanding | arrived
      · exact readFrom_cut_in_reply started outstanding
      rw [readFrom_of_error notDue uncut failed] at quiet ⊢
      rw [readFrom_of_error Cancellation.ofInstant_notDue
        (ofInstant_keepsReply arrived) failed]
      simp only [Run.report_sent, Run.map_sent, Statuses.get_sent] at quiet
      have finished := Nat.lt_of_le_of_ne arrived quiet.first_reply
      exact .of_over (by simpa using finished)
  | case4 attempt delay requests session notDue run requests' uncut status
      succeeded terminal =>
      rcases Nat.lt_or_ge instant
        (session.now + (reply session.replies 0).delay) with
        outstanding | arrived
      · exact readFrom_cut_in_reply started outstanding
      rw [readFrom_of_terminal notDue uncut succeeded terminal] at quiet ⊢
      rw [readFrom_of_terminal Cancellation.ofInstant_notDue
        (ofInstant_keepsReply arrived) succeeded terminal]
      simp only [Run.report_sent, Run.map_sent, Statuses.get_sent] at quiet
      have finished := Nat.lt_of_le_of_ne arrived quiet.first_reply
      exact .of_over (by simpa using finished)
  | case5 attempt delay requests session notDue run requests' uncut status
      succeeded inProgress finish instant cut =>
      cases cut
  | case6 attempt delay requests session notDue run requests' uncut status
      succeeded inProgress finish waited inductionHypothesis =>
      rcases Nat.lt_or_ge instant
        (session.now + (reply session.replies 0).delay) with
        outstanding | arrived
      · exact readFrom_cut_in_reply started outstanding
      rcases Nat.lt_or_ge instant
          (session.now + (reply session.replies 0).delay +
            delay.waitMilliseconds) with
        waiting | finished
      · exact readFrom_cut_in_wait started arrived waiting succeeded inProgress
      rw [readFrom_past_wait finished succeeded inProgress]
      rw [readFrom_of_wait notDue uncut succeeded inProgress waited] at quiet ⊢
      simp only [Run.followedBy_sent, Run.report_sent, List.singleton_append,
        Statuses.get_sent, Statuses.get_session] at quiet ⊢
      simp only [finish, run, requests', Statuses.get_sent,
        Statuses.get_session]
        at inductionHypothesis
      -- The rest begins with a request at the end of the wait, which is
      -- therefore over.
      obtain ⟨last, _, watched⟩ :=
        readFrom_never backoff executionId (attempt + 1)
          (backoff.nextDelay delay) _ _
      have second := (quiet.tail 0 _ (watched.sent_at (Nat.zero_le last))).1
      have restStarted := Nat.lt_of_le_of_ne finished second
      refine .followedBy ?_ (inductionHypothesis restStarted quiet.tail)
      simpa using started

/--
Cancelling a watch at an instant at which nothing happens cuts it there and
changes nothing before: a watch that was over is the same, and any other one
ends at the instant with nothing, having sent exactly what was sent before it. A
watch that is cancelled before it starts sends nothing at all.
-/
theorem untilTerminal_ofInstant
    (backoff : Backoff)
    (executionId : String)
    (replies : List Reply)
    (start instant : Nat)
    (started : start < instant)
    (quiet :
      QuietAt replies
        (untilTerminal Scripted.transport backoff .never executionId
          { replies := replies, now := start }).sent
        instant) :
    let session : Session Reply := { replies := replies, now := start }
    CutAt instant
        (untilTerminal Scripted.transport backoff .never executionId session)
        (untilTerminal Scripted.transport backoff (.ofInstant instant)
          executionId session) ∧
      ∀ cancellation : Cancellation,
        cancellation.beforeStart = true →
          let run :=
            untilTerminal Scripted.transport backoff cancellation
              executionId session
          run.result = none ∧ run.sent = [] := by
  intro session
  refine ⟨readFrom_ofInstant _ _ _ _ _ _ _ started quiet, ?_⟩
  intro cancellation beforeStart
  have due : cancellation.isDue 0 = true := by
    simp [Cancellation.isDue, beforeStart]
  unfold untilTerminal
  rw [readFrom_of_due due]
  exact ⟨rfl, rfl⟩

theorem untilTerminal_ofInstant_in_wait :
    let session : Session Reply := { replies := refusedScript, now := 0 }
    let uncut :=
      untilTerminal Scripted.transport Backoff.standard .never "e-1" session
    let cut :=
      untilTerminal Scripted.transport Backoff.standard (.ofInstant 500)
        "e-1" session
    0 < 500 ∧ QuietAt refusedScript uncut.sent 500 ∧ CutAt 500 uncut cut := by
  intro session uncut cut
  have quiet : QuietAt refusedScript uncut.sent 500 := by
    obtain ⟨last, endsAt, watched⟩ :=
      readFrom_never Backoff.standard "e-1" 1
        Backoff.standard.initialDelay 0 session
    have isSecond := refusedScript_endsAt.unique endsAt
    subst isSecond
    exact .of_watched watched (by decide)
  exact ⟨by decide, quiet,
    (untilTerminal_ofInstant Backoff.standard "e-1" refusedScript 0 500
      (by decide) quiet).1⟩

end WorkflowQueue.Watch
