import WorkflowQueue.Proofs.Growth
import WorkflowQueue.Proofs.Watching

namespace WorkflowQueue

/-!
# The pace of a watch

Between two requests a watch waits for the reply to the first, and then as long
as its backoff says for that position. This holds over any transport and under
any cancellation, which can only end a watch early: `Watch.readFrom_paced`
follows it from one reading to the next. What is known of the waits of a backoff
is therefore known of the requests of every watch.
-/

/-- What comes of a message that takes the reply at a position. -/
def Transport.replyAt
    (transport : Transport Message Response)
    (message : Message)
    (replies : List Response)
    (position : Nat) :
    Reply :=
  match replies[position]? with
  | some response => transport.answer message response
  | none => { delay := 0, outcome := .error (transport.unanswered message) }

@[simp] theorem Transport.replyAt_zero
    (transport : Transport Message Response)
    (message : Message)
    (response : Response)
    (replies : List Response) :
    transport.replyAt message (response :: replies) 0 =
      transport.answer message response :=
  rfl

@[simp] theorem Transport.replyAt_succ
    (transport : Transport Message Response)
    (message : Message)
    (response : Response)
    (replies : List Response)
    (position : Nat) :
    transport.replyAt message (response :: replies) (position + 1) =
      transport.replyAt message replies position :=
  rfl

/--
A record is read from the first reply, to the one message that was sent for it.
-/
theorem Statuses.get_of_ok
    {transport : Transport Message Response}
    {executionId : String}
    {session : Session Response}
    {status : WorkflowStatus}
    (succeeded :
      (Statuses.get transport executionId session).result = .ok status) :
    ∃ message response rest,
      session.replies = response :: rest ∧
        (Statuses.get transport executionId session).sent =
          [{ instant := session.now, message := message }] ∧
        (Statuses.get transport executionId session).session = {
          replies := rest
          now := session.now + (transport.answer message response).delay
        } := by
  rcases session with ⟨replies, now⟩
  simp only [Statuses.get, Transport.fetch, Transport.exchange,
    Run.after_result, Run.after_sent, Run.after_session, Run.map_result,
    Run.map_sent, Run.map_session] at succeeded ⊢
  cases prepared : transport.prepare (Statuses.statusRequest executionId) with
  | error error => simp [prepared, Transport.decodeReply] at succeeded
  | ok message =>
      cases replies with
      | nil => simp [prepared, Transport.decodeReply] at succeeded
      | cons response rest => exact ⟨message, response, rest, rfl, rfl, rfl⟩

/-- A reading sends one message at most, and at once. -/
theorem Statuses.get_sent_cases
    (transport : Transport Message Response)
    (executionId : String)
    (session : Session Response) :
    (Statuses.get transport executionId session).sent = [] ∨
      ∃ message,
        (Statuses.get transport executionId session).sent =
          [{ instant := session.now, message := message }] := by
  rcases session with ⟨replies, now⟩
  simp only [Statuses.get, Transport.fetch, Transport.exchange,
    Run.after_sent, Run.map_sent]
  cases transport.prepare (Statuses.statusRequest executionId) with
  | error error => exact Or.inl rfl
  | ok message => cases replies <;> exact Or.inr ⟨message, rfl⟩

namespace Watch

/--
The request at a position is followed by another one, after the reply to it and
then a wait.
-/
def WaitsAfter
    (transport : Transport Message Response)
    (replies : List Response)
    (run : Run Message Response α)
    (position : Nat)
    (wait : Duration) :
    Prop :=
  ∃ earlier later,
    run.sent[position]? = some earlier ∧
      run.sent[position + 1]? = some later ∧
      later.instant =
        earlier.instant +
            (transport.replyAt earlier.message replies position).delay +
          wait.waitMilliseconds

/-- A run that begins at once and whose requests are apart as a backoff says. -/
structure Paced
    (transport : Transport Message Response)
    (backoff : Backoff)
    (delay : Duration)
    (session : Session Response)
    (run : Run Message Response α) : Prop where
  begins :
    ∀ dispatch, run.sent[0]? = some dispatch → dispatch.instant = session.now
  waits : ∀ position, position + 1 < run.sent.length →
    WaitsAfter transport session.replies run position
      (backoff.nextDelay^[position] delay)

namespace Paced

variable
  {transport : Transport Message Response}
  {backoff : Backoff}
  {delay : Duration}
  {executionId : String}
  {session : Session Response}

/-- A run without requests. -/
theorem of_nothing
    {run : Run Message Response α}
    (nothing : run.sent = []) :
    Paced transport backoff delay session run where
  begins := by
    intro dispatch isFirst
    simp [nothing] at isFirst
  waits := by
    intro position more
    simp [nothing] at more

/-- A run that sends what one reading sends. -/
theorem of_reading
    {run : Run Message Response α}
    (single : run.sent = (Statuses.get transport executionId session).sent) :
    Paced transport backoff delay session run := by
  rcases Statuses.get_sent_cases transport executionId session with
    nothing | ⟨message, sent⟩
  · exact of_nothing (single.trans nothing)
  · have only := single.trans sent
    constructor
    · intro dispatch isFirst
      rw [only] at isFirst
      cases isFirst
      rfl
    · intro position more
      rw [only] at more
      simp at more

/-- One reading and one wait in front of a run. -/
theorem of_tail
    {status : WorkflowStatus}
    (succeeded :
      (Statuses.get transport executionId session).result = .ok status)
    (events : Except QueueError WorkflowStatus → List Event)
    {rest : Run Message Response α}
    (paced :
      let run := Statuses.get transport executionId session
      Paced transport backoff (backoff.nextDelay delay)
        {
          replies := run.session.replies
          now := run.session.now + delay.waitMilliseconds
        } rest) :
    Paced transport backoff delay session
      (((Statuses.get transport executionId session).report events).followedBy
        rest) := by
  obtain ⟨message, response, others, replies, sent, left⟩ :=
    Statuses.get_of_ok succeeded
  generalize Statuses.get transport executionId session = reading
    at sent left paced ⊢
  have isSent :
      ((reading.report events).followedBy rest).sent =
        { instant := session.now, message := message } :: rest.sent := by
    rw [Run.followedBy_sent, Run.report_sent, sent, List.singleton_append]
  constructor
  · intro dispatch isFirst
    rw [isSent, List.getElem?_cons_zero] at isFirst
    rw [← Option.some.inj isFirst]
  · intro position more
    rw [isSent, List.length_cons] at more
    have laterReplies := paced.waits
    rw [left] at laterReplies
    unfold WaitsAfter
    rw [isSent, replies]
    cases position with
    | zero =>
        have isSecond := List.getElem?_eq_getElem (Nat.lt_of_succ_lt_succ more)
        refine ⟨_, _, List.getElem?_cons_zero, isSecond, ?_⟩
        rw [paced.begins _ isSecond, left, Transport.replyAt_zero,
          Function.iterate_zero_apply]
    | succ position =>
        obtain ⟨earlier, later, isEarlier, isLater, apart⟩ :=
          laterReplies position (Nat.lt_of_succ_lt_succ more)
        refine ⟨earlier, later, isEarlier, isLater, ?_⟩
        rw [apart, Transport.replyAt_succ, Function.iterate_succ_apply]

end Paced

/--
Every watch keeps the pace of its backoff. The induction follows the watch: a
reading that ends it sends one message at most, and any other is followed by a
wait and the rest.
-/
theorem readFrom_paced
    (transport : Transport Message Response)
    (backoff : Backoff)
    (cancellation : Cancellation)
    (executionId : String)
    (attempt : UInt32)
    (delay : Duration)
    (requests : Nat)
    (session : Session Response) :
    Paced transport backoff delay session
      (readFrom transport backoff cancellation executionId attempt delay
        requests session) := by
  induction attempt, delay, requests, session using
      readFrom.induct transport backoff cancellation executionId with
  | case1 attempt delay requests session due =>
      rw [readFrom_of_due due]
      exact .of_nothing rfl
  | case2 attempt delay requests session notDue run requests' instant cut =>
      rw [readFrom_of_cutsReply notDue cut]
      exact .of_reading rfl
  | case3 attempt delay requests session notDue run requests' uncut
      error failed =>
      rw [readFrom_of_error notDue uncut failed]
      exact .of_reading rfl
  | case4 attempt delay requests session notDue run requests' uncut status
      succeeded terminal =>
      rw [readFrom_of_terminal notDue uncut succeeded terminal]
      exact .of_reading rfl
  | case5 attempt delay requests session notDue run requests' uncut status
      succeeded inProgress finish instant cut =>
      rw [readFrom_of_cutsDelay notDue uncut succeeded inProgress cut]
      exact .of_reading rfl
  | case6 attempt delay requests session notDue run requests' uncut status
      succeeded inProgress finish waited inductionHypothesis =>
      rw [readFrom_of_wait notDue uncut succeeded inProgress waited]
      exact .of_tail succeeded _ inductionHypothesis

/-- A wait of a watch is the wait of its backoff at the same position. -/
theorem untilTerminal_waits
    (transport : Transport Message Response)
    (backoff : Backoff)
    (cancellation : Cancellation)
    (executionId : String)
    (session : Session Response)
    {position : Nat}
    (goesOn :
      position + 1 <
        (untilTerminal transport backoff cancellation executionId
          session).sent.length) :
    WaitsAfter transport session.replies
      (untilTerminal transport backoff cancellation executionId session)
        position
      (backoff.wait position) :=
  (readFrom_paced transport backoff cancellation executionId 1
    backoff.initialDelay 0 session).waits position goesOn

/-! ## Doubling waits -/

/--
The waits of a watch with a configuration from variables: first and limit are
whole seconds, and as long as binary64 numbers hold the limit exactly, each wait
is twice the one before until the limit is reached, and exactly the limit from
then on.
-/
theorem waits_double_of_ofLookup
    {lookup : String → Option String}
    {config : Config}
    (loaded : Config.ofLookup lookup = .ok config) :
    ∃ first limit,
      config.backoff.initialDelay = Duration.ofSeconds first ∧
        config.backoff.maxDelay = Duration.ofSeconds limit ∧
        (limit * 1000 ≤ 2 ^ 53 → ∀ position,
          let wait := config.backoff.wait position
          let following := config.backoff.wait (position + 1)
          wait = Duration.ofSeconds (min (first * 2 ^ position) limit) ∧
            0 < wait.nanoseconds ∧
            wait ≤ config.backoff.maxDelay ∧
            (wait ≠ config.backoff.maxDelay → wait < following) ∧
            (wait = config.backoff.maxDelay →
              following = config.backoff.maxDelay) ∧
            ∀ (Message Response : Type) (transport : Transport Message Response)
              (cancellation : Cancellation) (executionId : String)
                (session : Session Response),
              let run :=
                untilTerminal transport config.backoff cancellation
                  executionId session
              position + 1 < run.sent.length →
                WaitsAfter transport session.replies run position
                  (Duration.ofSeconds (min (first * 2 ^ position) limit))) := by
  obtain ⟨first, limit, positive, ordered, isBackoff⟩ :=
    Config.backoff_of_ofLookup loaded
  refine ⟨first, limit, by rw [isBackoff], by rw [isBackoff], ?_⟩
  intro short position
  have isLimit : config.backoff.maxDelay = Duration.ofSeconds limit := by
    rw [isBackoff]
  have isWait := fun position =>
    config.backoff.wait_ofSeconds (by rw [isBackoff]) (by rw [isBackoff])
      isLimit ordered short position
  have doubled :
      first * 2 ^ (position + 1) = 2 * (first * 2 ^ position) := by ring
  have termPositive : 0 < first * 2 ^ position :=
    Nat.mul_pos positive (Nat.two_pow_pos position)
  simp only [isWait, isLimit, Duration.ofSeconds_le_iff,
    Duration.ofSeconds_lt_iff, ne_eq, Duration.ofSeconds_inj, doubled]
  refine ⟨trivial, ?_, by omega, by omega, by omega, ?_⟩
  · simp only [Duration.ofSeconds]
    omega
  · intro Message Response transport cancellation executionId session goesOn
    rw [← isWait]
    exact untilTerminal_waits transport config.backoff cancellation executionId
      session goesOn

/-- Three seconds first, twenty at most. -/
def threeToTwenty
    (key : String) :
    Option String :=
  if key = Config.pollIntervalKey then some "3"
  else if key = Config.pollMaxIntervalKey then some "20"
  else none

/-- The standard settings with waits from three seconds to twenty. -/
def threeToTwentyConfig : Config := {
  Config.standard with
  backoff := {
    initialDelay := Duration.ofSeconds 3
    maxDelay := Duration.ofSeconds 20
    multiplier := Backoff.defaultMultiplier
  }
}

theorem waits_double_from_three :
    Config.ofLookup threeToTwenty = .ok threeToTwentyConfig ∧
      ∀ position,
        threeToTwentyConfig.backoff.wait position =
          Duration.ofSeconds (min (3 * 2 ^ position) 20) := by
  have loaded : Config.ofLookup threeToTwenty = .ok threeToTwentyConfig := by
    decide +kernel
  obtain ⟨first, limit, isFirst, isLimit, doubles⟩ :=
    waits_double_of_ofLookup loaded
  have isThree : 3 = first := Duration.ofSeconds_inj.mp isFirst
  have isTwenty : 20 = limit := Duration.ofSeconds_inj.mp isLimit
  subst isThree isTwenty
  exact ⟨loaded, fun position => (doubles (by decide) position).1⟩

/-! ## Waits and their limit -/

/--
The waits of a watch over any transport, whatever its backoff. Each wait that
follows another one is within the limit, while the first one is the initial
delay as it stands: the limit bounds every wait just when it bounds the initial
delay.
-/
theorem waits_within_limit_iff
    (transport : Transport Message Response)
    (backoff : Backoff)
    (cancellation : Cancellation)
    (executionId : String)
    (session : Session Response) :
    (let run := untilTerminal transport backoff cancellation executionId session
      ∀ position, position + 1 < run.sent.length →
        WaitsAfter transport session.replies run position
          (backoff.wait position)) ∧
      backoff.wait 0 = backoff.initialDelay ∧
      (∀ position, backoff.wait (position + 1) ≤ backoff.maxDelay) ∧
      ((∀ position, backoff.wait position ≤ backoff.maxDelay) ↔
        backoff.initialDelay ≤ backoff.maxDelay) := by
  have laterWithin :
      ∀ position, backoff.wait (position + 1) ≤ backoff.maxDelay := by
    intro position
    rw [backoff.wait_succ]
    exact backoff.nextDelay_le _
  refine ⟨fun position goesOn => untilTerminal_waits _ _ _ _ _ goesOn, rfl,
    laterWithin, ?_⟩
  constructor
  · intro within
    exact within 0
  · intro firstWithin position
    cases position with
    | zero => exact firstWithin
    | succ position => exact laterWithin position

/-- A minute first, although no wait is to be longer than half a minute. -/
def lateLimit : Backoff where
  initialDelay := Duration.ofSeconds 60
  maxDelay := Duration.ofSeconds 30
  multiplier := Backoff.defaultMultiplier

/-- A script with an execution in progress and then completed. -/
def completedScript : List Reply := [
  {
    delay := 0
    outcome := .ok "\x7b\"execution_id\":\"e\",\"status\":\"running\"\x7d"
  },
  {
    delay := 0
    outcome := .ok "\x7b\"execution_id\":\"e\",\"status\":\"completed\"\x7d"
  }
]

theorem completedScript_endsAt :
    EndsAt completedScript 1 where
  ends := by decide +kernel
  goesOn := by
    intro position before
    have isFirst : position = 0 := by omega
    subst isFirst
    decide +kernel

theorem first_wait_exceeds_limit :
    let run := untilTerminal Scripted.transport lateLimit .never "e"
      { replies := completedScript, now := 0 }
    run.sent.map Dispatch.instant = [0, 60000] ∧
      lateLimit.maxDelay < Duration.ofMilliseconds (60000 - 0) := by
  obtain ⟨last, endsAt, watched⟩ :=
    readFrom_never lateLimit "e" 1 lateLimit.initialDelay 0
      { replies := completedScript, now := 0 }
  have isSecond := completedScript_endsAt.unique endsAt
  subst isSecond
  refine ⟨?_, by decide⟩
  unfold untilTerminal
  rw [watched.sent]
  decide +kernel

/-! ## Waits that never shrink -/

/--
The waits of a watch over any transport, where the first wait is within the
limit and the factor is one or more. They never shrink just when the second one
is not shorter than the first, and this is so when the first wait is a whole
number of milliseconds that a binary64 number holds exactly; no wait is then
shorter than it.
-/
theorem waits_grow
    (transport : Transport Message Response)
    (backoff : Backoff)
    (positive : 0 < backoff.initialDelay.nanoseconds)
    (ordered : backoff.initialDelay ≤ backoff.maxDelay)
    (factor : backoff.multiplier.FiniteAtLeastOne)
    (cancellation : Cancellation)
    (executionId : String)
    (session : Session Response) :
    (let run := untilTerminal transport backoff cancellation executionId session
      ∀ position, position + 1 < run.sent.length →
        WaitsAfter transport session.replies run position
          (backoff.wait position)) ∧
      (Monotone backoff.wait ↔ backoff.wait 0 ≤ backoff.wait 1) ∧
      (backoff.initialDelay.WholeMilliseconds →
        backoff.initialDelay.milliseconds ≤ 2 ^ 53 →
          Monotone backoff.wait ∧
            ∀ position,
              backoff.initialDelay ≤ backoff.wait position ∧
                0 < (backoff.wait position).nanoseconds) := by
  refine ⟨fun position goesOn => untilTerminal_waits _ _ _ _ _ goesOn,
    backoff.wait_mono_iff, ?_⟩
  intro whole short
  have grows : Monotone backoff.wait := by
    rw [backoff.wait_mono_iff, backoff.wait_succ]
    exact backoff.le_nextDelay ordered whole short factor
  refine ⟨grows, fun position => ?_⟩
  have notShorter : backoff.initialDelay ≤ backoff.wait position :=
    grows (Nat.zero_le position)
  exact ⟨notShorter, positive.trans_le notShorter⟩

theorem defaultMultiplier_finiteAtLeastOne :
    Backoff.defaultMultiplier.FiniteAtLeastOne :=
  ⟨2 ^ 52, -51, by decide +kernel, by norm_num⟩

/-- A quarter of a second first, three seconds at most. -/
def quickStart : Backoff where
  initialDelay := Duration.ofMilliseconds 250
  maxDelay := Duration.ofSeconds 3
  multiplier := Backoff.defaultMultiplier

theorem waits_grow_from_quarter :
    quickStart.initialDelay ≤ quickStart.maxDelay ∧
      Monotone quickStart.wait ∧
      ∀ position, Duration.ofMilliseconds 250 ≤ quickStart.wait position := by
  have ordered : quickStart.initialDelay ≤ quickStart.maxDelay := by decide
  obtain ⟨-, -, grow⟩ :=
    waits_grow Scripted.transport quickStart (by decide) ordered
      defaultMultiplier_finiteAtLeastOne .never "e" { replies := [], now := 0 }
  obtain ⟨monotone, within⟩ := grow (by decide) (by decide)
  exact ⟨ordered, monotone, fun position => (within position).1⟩

/-- Half a millisecond first, half a minute at most. -/
def halfMillisecond : Backoff where
  initialDelay := Duration.ofParts 0 500000
  maxDelay := Duration.ofSeconds 30
  multiplier := Backoff.defaultMultiplier

theorem later_waits_vanish :
    0 < halfMillisecond.initialDelay.nanoseconds ∧
      halfMillisecond.initialDelay ≤ halfMillisecond.maxDelay ∧
      halfMillisecond.multiplier.FiniteAtLeastOne ∧
      ¬ Monotone halfMillisecond.wait ∧
      ∀ position, (halfMillisecond.wait (position + 1)).nanoseconds = 0 := by
  refine ⟨by decide, by decide, defaultMultiplier_finiteAtLeastOne, ?_, ?_⟩
  · rw [halfMillisecond.wait_mono_iff]
    decide +kernel
  · intro position
    induction position with
    | zero => decide +kernel
    | succ position inductionHypothesis =>
        have vanished :
            halfMillisecond.wait (position + 1) = Duration.ofMilliseconds 0 :=
          congrArg Duration.mk inductionHypothesis
        rw [halfMillisecond.wait_succ, vanished]
        decide +kernel

end Watch

end WorkflowQueue
