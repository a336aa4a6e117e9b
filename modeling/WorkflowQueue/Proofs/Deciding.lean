import WorkflowQueue.Proofs.Records.Tokens
import WorkflowQueue.Proofs.Watching

namespace WorkflowQueue

/-!
# Tokens that end a watch

A watch compares no texts. It ends at a terminal state, and so at the first
reply whose token is that of a terminal state, letter by letter. `Watch.Decided`
says this of a run under any cancellation, which can end it earlier but never
later or otherwise, and `tokens_decide` joins it to what becomes of the tokens
of states and records.
-/

namespace Watch

/-! ## Watches under any cancellation -/

/--
A run that sends no request past a position, and has its result from there or
none.
-/
structure StopsBy
    (replies : List Reply)
    (last : Nat)
    (run : Run Request Reply Outcome) : Prop where
  sent_le : run.sent.length ≤ last + 1
  of_result :
    ∀ reading, run.result = some reading →
      run.sent.length = last + 1 ∧ reading = readingAt replies last

/-- What was cancelled with its first request or before it has no result. -/
theorem StopsBy.of_cancelled
    {replies : List Reply}
    {last : Nat}
    {run : Run Request Reply Outcome}
    (few : run.sent.length ≤ 1)
    (cancelled : run.result = none) :
    StopsBy replies last run where
  sent_le := Nat.le_trans few (Nat.le_add_left 1 last)
  of_result reading isResult := by
    rw [cancelled] at isResult
    cases isResult

/-- A watch that ends with its first reading stops there. -/
theorem StopsBy.of_first
    {executionId : String}
    {session : Session Reply}
    {last : Nat}
    (endsAt : EndsAt session.replies last)
    (ends : EndsWatch (readingAt session.replies 0))
    (events : Outcome → List Event) :
    StopsBy session.replies last
      (((Statuses.get Scripted.transport executionId session).map some).report
        events) := by
  obtain rfl : 0 = last := endsAt.unique (.of_ends ends)
  refine ⟨by simp, fun reading isResult => ⟨by simp, ?_⟩⟩
  have isReading : some (readingAt session.replies 0) = some reading := by
    simpa [readingAt] using isResult
  exact (Option.some.inj isReading).symm

/-- One reading and one wait in front of a watch. -/
theorem StopsBy.of_tail
    {executionId : String}
    {session : Session Reply}
    {last : Nat}
    {rest : Run Request Reply Outcome}
    (events : Except QueueError WorkflowStatus → List Event)
    (stopsBy : StopsBy session.replies.tail last rest) :
    StopsBy session.replies (last + 1)
      (((Statuses.get Scripted.transport executionId session).report
        events).followedBy rest) := by
  have sent (reading : Run Request Reply (Except QueueError WorkflowStatus))
      (isOne : reading.sent.length = 1) :
      (reading.followedBy rest).sent.length = rest.sent.length + 1 := by
    rw [Run.followedBy_sent, List.length_append, isOne, Nat.add_comm]
  refine ⟨?_, fun reading isResult => ?_⟩
  · rw [sent _ (by simp)]
    exact Nat.succ_le_succ stopsBy.sent_le
  · obtain ⟨restSent, isReading⟩ := stopsBy.of_result reading isResult
    rw [sent _ (by simp), restSent, isReading, readingAt_tail]
    exact ⟨rfl, rfl⟩

/--
Whatever cancels a watch, it does not go on after the first reading that ends
it, and has no result before. The induction follows the watch, as for one that
is never cancelled.
-/
theorem readFrom_stopsBy
    (backoff : Backoff)
    (cancellation : Cancellation)
    (executionId : String)
    (attempt : UInt32)
    (delay : Duration)
    (requests : Nat)
    (session : Session Reply) :
    ∀ last, EndsAt session.replies last →
      StopsBy session.replies last
        (readFrom Scripted.transport backoff cancellation executionId attempt
          delay requests session) := by
  induction attempt, delay, requests, session using
      readFrom.induct Scripted.transport backoff cancellation executionId with
  | case1 attempt delay requests session due =>
      intro last endsAt
      rw [readFrom_of_due due]
      exact .of_cancelled (Nat.zero_le 1) rfl
  | case2 attempt delay requests session notDue run requests' instant cut =>
      intro last endsAt
      rw [readFrom_of_cutsReply notDue cut]
      exact .of_cancelled (by simp [cutAt]) rfl
  | case3 attempt delay requests session notDue run requests' uncut
      error failed =>
      intro last endsAt
      have reading := readingAt_of_get failed
      rw [readFrom_of_error notDue uncut failed]
      exact .of_first endsAt (by rw [reading]; exact trivial) _
  | case4 attempt delay requests session notDue run requests' uncut status
      succeeded terminal =>
      intro last endsAt
      have reading := readingAt_of_get succeeded
      rw [readFrom_of_terminal notDue uncut succeeded terminal]
      exact .of_first endsAt
        (by rw [reading]; exact isTerminal_iff.mp terminal) _
  | case5 attempt delay requests session notDue run requests' uncut status
      succeeded inProgress finish instant cut =>
      intro last endsAt
      rw [readFrom_of_cutsDelay notDue uncut succeeded inProgress cut]
      exact .of_cancelled (by simp [cutAt]) rfl
  | case6 attempt delay requests session notDue run requests' uncut status
      succeeded inProgress finish waited inductionHypothesis =>
      intro last endsAt
      have reading := readingAt_of_get succeeded
      obtain ⟨before, rfl⟩ :=
        Nat.exists_eq_succ_of_ne_zero (endsAt.ne_zero reading inProgress)
      rw [readFrom_of_wait notDue uncut succeeded inProgress waited]
      simp only [finish, run, Statuses.get_session] at inductionHypothesis ⊢
      exact .of_tail _ (inductionHypothesis before endsAt.tail)

/-! ## Tokens of replies -/

/-- The tokens that end a watch. -/
def IsFinal
    (token : String) :
    Prop :=
  token = "completed" ∨ token = "aborted"

instance : DecidablePred IsFinal := fun _ => inferInstanceAs (Decidable (_ ∨ _))

/--
A reply whose body carries the status of an execution and shows a token as its
state.
-/
def ShowsToken
    (reply : Reply)
    (token : String) :
    Prop :=
  ∃ body, ∃ record : WorkflowStatus, reply.outcome = .ok body ∧
      decode body = .ok record ∧
    WorkflowStatus.form.ShowsToken "status" body token

/--
A reply that shows a token is read as a status with the state of the token.
-/
theorem ShowsToken.exists_reading
    {reply : Reply}
    {token : String}
    (shows : ShowsToken reply token) :
    ∃ record : WorkflowStatus, Transport.decodeReply reply.outcome =
        .ok record ∧
      record.status = .ofToken token := by
  obtain ⟨body, record, isBody, isDecoded, shown⟩ := shows
  have kept := WorkflowStatus.carriesTokens.keeps body record isDecoded
  refine ⟨record, ?_, (kept.keeps token shown).1⟩
  rw [isBody]
  simp only [Transport.decodeReply, isDecoded]
  rfl

/-- A status ends a watch when its token is final. -/
theorem endsWatch_iff
    {record : WorkflowStatus}
    {token : String}
    (isState : record.status = .ofToken token) :
    EndsWatch (.ok record) ↔ IsFinal token := by
  rw [EndsWatch, ← isTerminal_iff, isState]
  exact ExecutionState.isTerminal_ofToken_iff

section Script

variable
  {shown : List Reply}
  {tokens : List String}
  (shows : List.Forall₂ ShowsToken shown tokens)
  (others : List Reply)

include shows

/-- The reading at the position of a token has the state of the token. -/
theorem exists_readingAt
    {position : Nat}
    {token : String}
    (isToken : tokens[position]? = some token) :
    ∃ record : WorkflowStatus, readingAt (shown ++ others) position =
        .ok record ∧
      record.status = .ofToken token := by
  induction shows generalizing position with
  | nil => cases isToken
  | cons first rest inductionHypothesis =>
      cases position with
      | zero =>
          obtain rfl := Option.some.inj isToken
          exact first.exists_reading
      | succ position =>
          rw [← readingAt_tail]
          exact inductionHypothesis isToken

/-- The first final token ends a watch, and no other before it does. -/
theorem endsAt_of_final
    {before after : List String}
    {token : String}
    (areTokens : tokens = before ++ token :: after)
    (goesOn : ∀ earlier ∈ before, ¬ IsFinal earlier)
    (isFinal : IsFinal token) :
    EndsAt (shown ++ others) before.length where
  ends := by
    have isToken : tokens[before.length]? = some token := by simp [areTokens]
    obtain ⟨record, reading, isState⟩ := exists_readingAt shows others isToken
    rw [reading]
    exact (endsWatch_iff isState).mpr isFinal
  goesOn position isBefore := by
    have isToken : tokens[position]? = some before[position] := by
      simp [areTokens, List.getElem?_append_left isBefore]
    obtain ⟨record, reading, isState⟩ := exists_readingAt shows others isToken
    rw [reading, endsWatch_iff isState]
    exact goesOn _ (List.getElem_mem isBefore)

end Script

/-! ## Where a watch stops -/

/--
A script that is read to its end is refused there, if nothing ends the watch
before.
-/
theorem exists_endsAt
    (replies : List Reply) :
    ∃ last, EndsAt replies last := by
  obtain ⟨last, endsAt, -⟩ :=
    readFrom_never .standard "" 1 Backoff.standard.initialDelay 0
      { replies := replies, now := 0 }
  exact ⟨last, endsAt⟩

/--
A watch that is decided by the tokens which the first replies of a script show.
It sends no request after the one that is answered with the first final token,
and a result that it has is that answer. Before every other token it goes on,
and so it has no result while no token was final. Only what cancels it can leave
it without a result.
-/
structure Decided
    (cancellation : Cancellation)
    (replies : List Reply)
    (tokens : List String)
    (run : Run Request Reply Outcome) : Prop where
  stops :
    ∀ before token after, tokens = before ++ token :: after →
      (∀ earlier ∈ before, ¬ IsFinal earlier) →
      IsFinal token →
        run.sent.length ≤ before.length + 1 ∧
          ∃ record : WorkflowStatus, readingAt replies before.length =
              .ok record ∧
            record.status = .ofToken token ∧
            ∀ reading, run.result = some reading →
              run.sent.length = before.length + 1 ∧ reading = .ok record
  goesOn :
    (∀ token ∈ tokens, ¬ IsFinal token) →
      ∀ reading, run.result = some reading → tokens.length < run.sent.length
  isFinal :
    ∀ record, run.result = some (.ok record) → IsFinal record.status.token
  answers : cancellation = .never → run.result ≠ none

theorem untilTerminal_decided
    (backoff : Backoff)
    (cancellation : Cancellation)
    (executionId : String)
    (start : Nat)
    {shown others : List Reply}
    {tokens : List String}
    (shows : List.Forall₂ ShowsToken shown tokens) :
    Decided cancellation (shown ++ others) tokens
      (untilTerminal Scripted.transport backoff cancellation executionId
        { replies := shown ++ others, now := start }) := by
  have stopsBy :=
    readFrom_stopsBy backoff cancellation executionId 1 backoff.initialDelay 0
      { replies := shown ++ others, now := start }
  obtain ⟨last, endsAt⟩ := exists_endsAt (shown ++ others)
  have stopsByLast := stopsBy last endsAt
  constructor
  case stops =>
    intro before token after areTokens goesOn isFinal
    have endsThere := endsAt_of_final shows others areTokens goesOn isFinal
    have isToken : tokens[before.length]? = some token := by simp [areTokens]
    obtain ⟨record, reading, isState⟩ := exists_readingAt shows others isToken
    obtain ⟨few, ofResult⟩ := stopsBy before.length endsThere
    rw [reading] at ofResult
    exact ⟨few, record, reading, isState, ofResult⟩
  case goesOn =>
    intro noneFinal reading isResult
    obtain ⟨sent, -⟩ := stopsByLast.of_result reading isResult
    by_contra tooFew
    have early : last < tokens.length := by
      unfold untilTerminal at tooFew
      omega
    obtain ⟨record, reading, isState⟩ :=
      exists_readingAt shows others (List.getElem?_eq_getElem early)
    have ends := endsAt.ends
    rw [reading, endsWatch_iff isState] at ends
    exact noneFinal _ (List.getElem_mem early) ends
  case isFinal =>
    intro record isResult
    have ends := endsAt.ends
    rw [← (stopsByLast.of_result _ isResult).2] at ends
    rcases ends with isCompleted | isAborted
    · exact .inl (congrArg ExecutionState.token isCompleted)
    · exact .inr (congrArg ExecutionState.token isAborted)
  case answers =>
    rintro rfl
    obtain ⟨_, _, watched⟩ :=
      readFrom_never backoff executionId 1 backoff.initialDelay 0
        { replies := shown ++ others, now := start }
    rw [untilTerminal, watched.result]
    exact Option.some_ne_none _

end Watch

/--
Tokens are carried letter by letter and decide when a watch ends. States stand
for their tokens, one for each, records keep them from a body to their texts,
and a watch stops at the first token that is exactly that of a terminal state.
-/
theorem tokens_decide :
    AreTokens ExecutionState.ofToken .other ExecutionState.knownTokens ∧
      AreTokens ActionState.ofToken .other ActionState.knownTokens ∧
      CarriesTokens WorkflowStatus.form "status" WorkflowStatus.status
        ExecutionState.ofToken ∧
      CarriesTokens ActionStatus.form "status" ActionStatus.status
        ActionState.ofToken ∧
      (∀ token, (ExecutionState.ofToken token).isTerminal = true ↔
        Watch.IsFinal token) ∧
      ∀ backoff cancellation executionId start shown others tokens,
        List.Forall₂ Watch.ShowsToken shown tokens →
          Watch.Decided cancellation (shown ++ others) tokens
            (Watch.untilTerminal Scripted.transport backoff cancellation
              executionId { replies := shown ++ others, now := start }) :=
  ⟨ExecutionState.areTokens, ActionState.areTokens,
    WorkflowStatus.carriesTokens,
    ActionStatus.carriesTokens, fun _ => ExecutionState.isTerminal_ofToken_iff,
    fun backoff cancellation executionId start _ _ _ shows =>
      Watch.untilTerminal_decided backoff cancellation executionId start shows⟩

/-- Tokens that are not final although they look so, and then one that is. -/
def similarTokens : List String :=
  ["Completed", " completed", "done", "aborted\x00", "completed"]

/-- A script that shows tokens one after the other. -/
def Watch.scriptOfTokens
    (tokens : List String) :
    List Reply :=
  tokens.map fun token =>
    { delay := 3, outcome := .ok (WorkflowStatus.textOfToken token) }

theorem tokens_decide_similar :
    let script := Watch.scriptOfTokens similarTokens
    List.Forall₂ Watch.ShowsToken script similarTokens ∧
      let run := Watch.untilTerminal Scripted.transport .standard .never "e-1"
        { replies := script, now := 0 }
      run.sent.length = 5 ∧
        ∃ record : WorkflowStatus, run.result = some (.ok record) ∧
          record.status = .completed := by
  intro script
  have shows : List.Forall₂ Watch.ShowsToken script similarTokens := by
    refine List.forall₂_map_left_iff.mpr
      (List.forall₂_same.mpr fun token _ => ?_)
    obtain ⟨⟨record, isDecoded⟩, shown⟩ :=
      WorkflowStatus.carries_textOfToken token
    exact ⟨_, record, rfl, isDecoded, shown⟩
  refine ⟨shows, ?_⟩
  intro run
  obtain ⟨-, -, -, -, -, decides⟩ := tokens_decide
  have decided := decides .standard .never "e-1" 0 script [] similarTokens shows
  rw [List.append_nil] at decided
  obtain ⟨-, record, -, isState, ofResult⟩ := decided.stops
    ["Completed", " completed", "done", "aborted\x00"] "completed" [] rfl
      (by decide) (by decide)
  obtain ⟨reading, isResult⟩ :=
    Option.ne_none_iff_exists'.mp (decided.answers rfl)
  obtain ⟨sent, rfl⟩ := ofResult reading isResult
  exact ⟨sent, record, isResult, isState⟩

end WorkflowQueue
