import WorkflowQueue.Proofs.Growth
import WorkflowQueue.Proofs.Watching

namespace WorkflowQueue

/-!
# The readings that a watch counts

A watch numbers its readings from one, in a 32-bit word, and names the number in
what it tells of each reading. Nothing bounds the readings of a watch, and after
the greatest word the numbers begin again at zero. `readFrom_tells` says
everything that a watch tells which is never cancelled; the numbers in it are
those of the requests exactly when the watch sends fewer than 2 ^ 32 of them.
-/

namespace Event

/-- The number of the reading that an event of a watch is about. -/
def attempt? :
    Event →
    Option UInt32
  | .pollingCancelled _ attempt => some attempt
  | .reachedTerminal _ attempt _ => some attempt
  | .stillInProgress _ attempt _ _ => some attempt
  | .pollFailed _ attempt _ => some attempt
  | _ => none

/-- The number of a reading that showed an execution in progress. -/
def inProgress? :
    Event →
    Option UInt32
  | .stillInProgress _ attempt _ _ => some attempt
  | _ => none

/-- Whether an event has a level above that of debugging. -/
def isNotable
    (event : Event) :
    Bool :=
  event.level ≠ .debug

end Event

namespace Watch

/-! ## What is told of one reading -/

/-- What a watch tells of what came of a reading. -/
def outcomeEvent
    (executionId : String)
    (attempt : UInt32)
    (delay : Duration) :
    Except QueueError WorkflowStatus →
    Event
  | .error error => .pollFailed executionId attempt error.message
  | .ok status =>
      if status.status.isTerminal then
        .reachedTerminal executionId attempt status.status
      else .stillInProgress executionId attempt status.status
        (reportedDelay delay)

/-- What a watch tells of a reading: that it is made, and what came of it. -/
def readingEvents
    (executionId : String)
    (attempt : UInt32)
    (delay : Duration)
    (reading : Except QueueError WorkflowStatus) :
    List Event :=
  [.fetchingStatus executionId, outcomeEvent executionId attempt delay reading]

section Reading

variable
  (executionId : String)
  (attempt : UInt32)
  (delay : Duration)
  {reading : Except QueueError WorkflowStatus}

/-- Every reading is told with its number. -/
theorem readingEvents_attempt?
    (reading : Except QueueError WorkflowStatus) :
    (readingEvents executionId attempt delay reading).filterMap Event.attempt? =
      [attempt] := by
  cases reading with
  | error error => rfl
  | ok status =>
      by_cases terminal : status.status.isTerminal = true
      · simp only [readingEvents, outcomeEvent, if_pos terminal]
        rfl
      · simp only [readingEvents, outcomeEvent, if_neg terminal]
        rfl

/-- A reading that does not end a watch is told as such, and is not notable. -/
theorem readingEvents_of_goesOn
    (goesOn : ¬ EndsWatch reading) :
    (readingEvents executionId attempt delay reading).filterMap
        Event.inProgress? = [attempt] ∧
      (readingEvents executionId attempt delay reading).filter Event.isNotable =
        [] := by
  cases reading with
  | error error => exact (goesOn trivial).elim
  | ok status =>
      have inProgress : ¬ status.status.isTerminal = true := fun terminal =>
        goesOn (isTerminal_iff.mp terminal)
      simp only [readingEvents, outcomeEvent, if_neg inProgress]
      exact ⟨rfl, rfl⟩

/-- A reading that ends a watch is notable. -/
theorem readingEvents_of_ends
    (ends : EndsWatch reading) :
    (readingEvents executionId attempt delay reading).filterMap
        Event.inProgress? = [] ∧
      (readingEvents executionId attempt delay reading).filter Event.isNotable =
        [outcomeEvent executionId attempt delay reading] := by
  cases reading with
  | error error => exact ⟨rfl, rfl⟩
  | ok status =>
      have terminal : status.status.isTerminal = true := isTerminal_iff.mpr ends
      simp only [readingEvents, outcomeEvent, if_pos terminal]
      exact ⟨rfl, rfl⟩

end Reading

/-! ## What is told of a whole watch -/

/-- What a watch tells whose readings have numbers from `attempt` on. -/
def toldUpTo
    (backoff : Backoff)
    (executionId : String)
    (attempt : UInt32)
    (delay : Duration)
    (replies : List Reply)
    (last : Nat) :
    List Event :=
  (List.range (last + 1)).flatMap fun position =>
    readingEvents executionId (attempt + UInt32.ofNat position)
      (backoff.nextDelay^[position] delay) (readingAt replies position)

section Told

variable
  (backoff : Backoff)
  (executionId : String)
  (attempt : UInt32)
  (delay : Duration)
  (replies : List Reply)

theorem toldUpTo_zero :
    toldUpTo backoff executionId attempt delay replies 0 =
      readingEvents executionId attempt delay (readingAt replies 0) := by
  simp [toldUpTo]

/-- A watch that goes on tells of its first reading and then of the others. -/
theorem toldUpTo_succ
    (last : Nat) :
    toldUpTo backoff executionId attempt delay replies (last + 1) =
      readingEvents executionId attempt delay (readingAt replies 0) ++
        toldUpTo backoff executionId (attempt + 1) (backoff.nextDelay delay)
          replies.tail
          last := by
  have number (position : Nat) :
      attempt + UInt32.ofNat (position + 1) =
        attempt + 1 + UInt32.ofNat position := by
    rw [UInt32.ofNat_add, UInt32.add_assoc,
      UInt32.add_comm (UInt32.ofNat position)]
    rfl
  unfold toldUpTo
  rw [List.range_succ_eq_map, List.flatMap_cons, List.flatMap_map]
  congr 1
  · simp
  · refine List.flatMap_congr fun position _ => ?_
    rw [number, Function.iterate_succ_apply, readingAt_tail]

end Told

/--
A watch that is never cancelled tells of every reading that it makes, with the
number of the reading, and of nothing else. The induction follows the watch.
-/
theorem readFrom_tells
    (backoff : Backoff)
    (executionId : String)
    (attempt : UInt32)
    (delay : Duration)
    (requests : Nat)
    (session : Session Reply) :
    ∀ last, EndsAt session.replies last →
      (readFrom Scripted.transport backoff .never executionId attempt delay
          requests session).events =
        toldUpTo backoff executionId attempt delay session.replies last := by
  induction attempt, delay, requests, session using
      readFrom.induct Scripted.transport backoff .never executionId with
  | case1 attempt delay requests session due =>
      cases due
  | case2 attempt delay requests session notDue run requests' instant cut =>
      cases cut
  | case3 attempt delay requests session notDue run requests' uncut
      error failed =>
      intro last endsAt
      have reading := readingAt_of_get failed
      obtain rfl : 0 = last :=
        endsAt.unique (.of_ends (by rw [reading]; exact trivial))
      rw [readFrom_of_error notDue uncut failed, toldUpTo_zero, reading]
      simp [readingEvents, outcomeEvent]
  | case4 attempt delay requests session notDue run requests' uncut status
      succeeded terminal =>
      intro last endsAt
      have reading := readingAt_of_get succeeded
      obtain rfl : 0 = last :=
        endsAt.unique (.of_ends
          (by rw [reading]; exact isTerminal_iff.mp terminal))
      rw [readFrom_of_terminal notDue uncut succeeded terminal,
        toldUpTo_zero, reading]
      simp [readingEvents, outcomeEvent, terminal]
  | case5 attempt delay requests session notDue run requests' uncut status
      succeeded inProgress finish instant cut =>
      cases cut
  | case6 attempt delay requests session notDue run requests' uncut status
      succeeded inProgress finish waited inductionHypothesis =>
      intro last endsAt
      have reading := readingAt_of_get succeeded
      obtain ⟨before, rfl⟩ :=
        Nat.exists_eq_succ_of_ne_zero (endsAt.ne_zero reading inProgress)
      rw [readFrom_of_wait notDue uncut succeeded inProgress waited]
      simp only [finish, run, Statuses.get_session] at inductionHypothesis ⊢
      rw [Run.followedBy_events, inductionHypothesis before endsAt.tail,
        toldUpTo_succ, reading]
      simp [readingEvents, outcomeEvent, inProgress]

/-! ## The numbers that are told -/

section Numbers

variable
  (backoff : Backoff)
  (executionId : String)
  (attempt : UInt32)
  (delay : Duration)
  {replies : List Reply}
  {last : Nat}

/-- Every reading has its number. -/
theorem toldUpTo_attempt?
    (replies : List Reply)
    (last : Nat) :
    (toldUpTo backoff executionId attempt delay replies last).filterMap
        Event.attempt? =
      (List.range (last + 1)).map fun position =>
        attempt + UInt32.ofNat position := by
  rw [toldUpTo, List.filterMap_flatMap, List.map_eq_flatMap]
  exact List.flatMap_congr fun position _ => readingEvents_attempt? _ _ _ _

/-- What is told of the readings before the last one, and of the last one. -/
theorem toldUpTo_eq_append
    (replies : List Reply)
    (last : Nat) :
    toldUpTo backoff executionId attempt delay replies last =
      ((List.range last).flatMap fun position =>
          readingEvents executionId (attempt + UInt32.ofNat position)
            (backoff.nextDelay^[position] delay)
              (readingAt replies position)) ++
        readingEvents executionId (attempt + UInt32.ofNat last)
          (backoff.nextDelay^[last] delay) (readingAt replies last) := by
  rw [toldUpTo, List.range_succ, List.flatMap_append, List.flatMap_singleton]

/-- Every reading but the last shows an execution in progress. -/
theorem toldUpTo_inProgress?
    (endsAt : EndsAt replies last) :
    (toldUpTo backoff executionId attempt delay replies last).filterMap
        Event.inProgress? =
      (List.range last).map fun position =>
        attempt + UInt32.ofNat position := by
  rw [toldUpTo_eq_append, List.filterMap_append,
    (readingEvents_of_ends executionId _ _ endsAt.ends).1, List.append_nil,
    List.filterMap_flatMap, List.map_eq_flatMap]
  refine List.flatMap_congr fun position before => ?_
  exact (readingEvents_of_goesOn _ _ _
    (endsAt.goesOn position (List.mem_range.mp before))).1

/-- Only the last reading is notable. -/
theorem toldUpTo_isNotable
    (endsAt : EndsAt replies last) :
    (toldUpTo backoff executionId attempt delay replies last).filter
        Event.isNotable =
      [outcomeEvent executionId (attempt + UInt32.ofNat last)
        (backoff.nextDelay^[last] delay) (readingAt replies last)] := by
  rw [toldUpTo_eq_append, List.filter_append,
    (readingEvents_of_ends executionId _ _ endsAt.ends).2, List.filter_flatMap]
  refine (congrArg (· ++ _) (List.flatMap_eq_nil_iff.mpr fun position before =>
    ?_)).trans (List.nil_append _)
  exact (readingEvents_of_goesOn _ _ _
    (endsAt.goesOn position (List.mem_range.mp before))).2

end Numbers

/-! ## Numbers and requests -/

/--
A watch whose events have the numbers of its requests: the counter at each
request is the number of requests sent until then, every reading but the last is
told as in progress with that number, and the last one is told once, at level
info where it shows a terminal state and as a warning where it failed, with the
number of all requests.
-/
structure CountsRequests
    (executionId : String)
    (run : Run Request Reply Outcome) : Prop where
  counter :
    (run.events.filterMap Event.attempt?).map UInt32.toNat =
      (List.range run.sent.length).map Nat.succ
  inProgress :
    (run.events.filterMap Event.inProgress?).map UInt32.toNat =
      (List.range (run.sent.length - 1)).map Nat.succ
  ending :
    ∃ total : UInt32,
      total.toNat = run.sent.length ∧
        ((∃ status : WorkflowStatus,
            run.result = some (.ok status) ∧
              run.events.filter Event.isNotable =
                [.reachedTerminal executionId total status.status]) ∨
          ∃ error : QueueError,
            run.result = some (.error error) ∧
              run.events.filter Event.isNotable =
                [.pollFailed executionId total error.message])

/--
A run with the right numbers is short enough for its last one to be a word.
-/
theorem CountsRequests.length_lt
    {executionId : String}
    {run : Run Request Reply Outcome}
    (counts : CountsRequests executionId run) :
    run.sent.length < 2 ^ 32 := by
  obtain ⟨total, isTotal, -⟩ := counts.ending
  rw [← isTotal]
  exact total.toNat_lt

/--
The word for a position is the number of its request, as long as that is a word.
-/
theorem toNat_position
    {position : Nat}
    (short : position + 1 < 2 ^ 32) :
    (1 + UInt32.ofNat position).toNat = position + 1 := by
  rw [UInt32.add_comm, ← UInt32.ofNat_one, ← UInt32.ofNat_add]
  exact UInt32.toNat_ofNat_of_lt' short

theorem map_toNat_positions
    {count : Nat}
    (short : count < 2 ^ 32) :
    ((List.range count).map fun position => 1 + UInt32.ofNat position).map
        UInt32.toNat =
      (List.range count).map Nat.succ := by
  rw [List.map_map]
  refine List.map_congr_left fun position before => ?_
  exact toNat_position (Nat.lt_of_le_of_lt (List.mem_range.mp before) short)

/--
What a watch tells that is never cancelled: every reading with the 32-bit word
of its number, up to the reading that ends it. The words are the numbers of the
requests exactly when there are fewer than 2 ^ 32 requests.
-/
theorem untilTerminal_counts_iff
    (backoff : Backoff)
    (executionId : String)
    (replies : List Reply)
    (start : Nat) :
    ∃ last,
      EndsAt replies last ∧
        let run := untilTerminal Scripted.transport backoff .never executionId
          { replies := replies, now := start }
        run.sent.length = last + 1 ∧
          run.events =
            (List.range (last + 1)).flatMap (fun position =>
              readingEvents executionId (1 + UInt32.ofNat position)
                (backoff.wait position) (readingAt replies position)) ∧
          (CountsRequests executionId run ↔ run.sent.length < 2 ^ 32) := by
  obtain ⟨last, endsAt, watched⟩ :=
    readFrom_never backoff executionId 1 backoff.initialDelay 0
      { replies := replies, now := start }
  have told := readFrom_tells backoff executionId 1 backoff.initialDelay 0
    { replies := replies, now := start } last endsAt
  refine ⟨last, endsAt, watched.length_sent, told, ?_⟩
  unfold untilTerminal
  constructor
  · exact CountsRequests.length_lt
  · intro short
    rw [watched.length_sent] at short
    constructor
    case counter =>
      rw [told, toldUpTo_attempt?, watched.length_sent,
        map_toNat_positions short]
    case inProgress =>
      rw [told, toldUpTo_inProgress? _ _ _ _ endsAt, watched.length_sent,
        Nat.add_sub_cancel, map_toNat_positions (Nat.lt_of_succ_lt short)]
    case ending =>
      refine ⟨1 + UInt32.ofNat last, ?_, ?_⟩
      · rw [watched.length_sent, toNat_position short]
      · rw [watched.result, told, toldUpTo_isNotable _ _ _ _ endsAt]
        have ends := endsAt.ends
        cases reading : readingAt replies last with
        | error error => exact Or.inr ⟨error, rfl, rfl⟩
        | ok status =>
            rw [reading] at ends
            have terminal : status.status.isTerminal = true :=
              isTerminal_iff.mpr ends
            refine Or.inl ⟨status, rfl, ?_⟩
            rw [outcomeEvent, if_pos terminal]

/-! ## Too many readings -/

/-- A reply that shows an execution in progress. -/
def inProgressReply : Reply where
  delay := 0
  outcome := .ok "\x7b\"execution_id\":\"e\",\"status\":\"running\"\x7d"

/--
A watch that only sees an execution in progress, as many times as there are
replies.
-/
def longWatch
    (count : Nat) :
    Run Request Reply Outcome :=
  untilTerminal Scripted.transport .standard .never "e"
    { replies := List.replicate count inProgressReply, now := 0 }

/-- Such a watch is refused after the last reply. -/
theorem endsAt_replicate
    (count : Nat) :
    EndsAt (List.replicate count inProgressReply) count where
  ends := by
    simp [readingAt, Scripted.reply, Transport.decodeReply, EndsWatch]
  goesOn := by
    intro position before
    have goesOn :
        ¬ EndsWatch (Transport.decodeReply inProgressReply.outcome) := by
      decide +kernel
    simpa [readingAt, Scripted.reply, before] using goesOn

theorem longWatch_tells
    (count : Nat) :
    (longWatch count).sent.length = count + 1 ∧
      (longWatch count).events.filter Event.isNotable =
        [.pollFailed "e" (1 + UInt32.ofNat count)
          Scripted.exhausted.message] := by
  have endsAt := endsAt_replicate count
  obtain ⟨last, alsoEndsAt, watched⟩ :=
    readFrom_never .standard "e" 1 Backoff.standard.initialDelay 0
      { replies := List.replicate count inProgressReply, now := 0 }
  obtain rfl : last = count := endsAt.unique alsoEndsAt
  have told := readFrom_tells .standard "e" 1 Backoff.standard.initialDelay 0
    { replies := List.replicate last inProgressReply, now := 0 } last endsAt
  refine ⟨watched.length_sent, ?_⟩
  have refused :
      readingAt (List.replicate last inProgressReply) last =
        .error Scripted.exhausted := by
    simp [readingAt, Scripted.reply, Transport.decodeReply]
  rw [longWatch, untilTerminal, told,
    toldUpTo_isNotable _ _ _ _ endsAt, refused]
  rfl

/--
A watch that is refused at its request number 2 ^ 32 warns of the reading with
the number zero.
-/
theorem refusal_counted_as_zero :
    (longWatch 4294967295).sent.length = 4294967296 ∧
      (longWatch 4294967295).events.filter Event.isNotable =
        [.pollFailed "e" 0 "Queue API error (599): no scripted response left"] ∧
      ¬ CountsRequests "e" (longWatch 4294967295) := by
  obtain ⟨sent, told⟩ := longWatch_tells 4294967295
  have wrapped : 1 + UInt32.ofNat 4294967295 = 0 := by decide
  have message :
      Scripted.exhausted.message =
        "Queue API error (599): no scripted response left" := by
    decide +kernel
  rw [wrapped, message] at told
  refine ⟨sent, told, fun counts => ?_⟩
  have short := counts.length_lt
  rw [sent] at short
  exact Nat.lt_irrefl _ short

end Watch

end WorkflowQueue
