import Mathlib.Data.List.Intervals
import Mathlib.Data.List.Nodup
import WorkflowQueue.Proofs.Script

namespace WorkflowQueue

/-!
# The walk over the pages of the listing

The listing is read page by page. Which page ends the walk depends on the
replies alone: it is the first one that cannot be read or that is empty, or else
the last page that has a number. `LastPage` names that page, `all_reads_pages`
says what a walk asks for and gives up to it, and `drain_agrees_all` says that
the stream of pages makes the same walk, whatever carries the requests.
-/

namespace PageNumber

/-- The number of the last page, which is the greatest 32-bit number. -/
def greatest : Nat := 4294967295

theorem number_le_greatest
    (page : PageNumber) :
    page.number ≤ greatest :=
  Nat.le_of_lt_succ page.inRange.2

/-- Only the last page has no successor. -/
theorem number_of_next?_eq_none
    {page : PageNumber}
    (isLast : page.next? = none) :
    page.number = greatest := by
  have inRange := page.number_le_greatest
  simp only [next?, dite_eq_right_iff, reduceCtorEq, imp_false] at isLast
  unfold greatest at *
  omega

/-- The successor of a page has the next number. -/
theorem number_of_next?_eq_some
    {page next : PageNumber}
    (follows : page.next? = some next) :
    next.number = page.number + 1 := by
  unfold next? at follows
  split at follows
  · cases follows
    rfl
  · cases follows

end PageNumber

namespace Statuses

open Scripted (reply)

/-! ## Requests for pages -/

/-- The request for the page of a number, written out. -/
def listingRequest
    (number : Nat) :
    Request where
  method := .get
  segments := ["workflowqueue"]
  query := [("page", toString number)]
  body := none

theorem pageRequest_eq
    (page : PageNumber) :
    pageRequest page = listingRequest page.number := by
  simp [pageRequest, Request.get, Request.ofPath, Request.withQuery,
    Submission.splitPath_queuePath, listingRequest, PageNumber.text]

/-- Different pages are asked for by different requests. -/
theorem listingRequest_injective :
    Function.Injective listingRequest := by
  intro first second same
  have sameDigits : toString first = toString second := by
    simpa [listingRequest] using congrArg Request.query same
  have sameCharacters :
      Nat.toDigits 10 first = Nat.toDigits 10 second := by
    simpa using congrArg String.toList sameDigits
  have sameValue :=
    congrArg (Nat.ofDigitChars 10 · 0) sameCharacters
  simpa using sameValue

/-! ## Where a walk ends -/

/--
What comes of the page of a number in a walk that starts at the page `first`.
-/
def pageAt
    (replies : List Reply)
    (first number : Nat) :
    StreamItem :=
  Transport.decodeReply (reply replies (number - first)).outcome

/-- An item that ends a walk: an error or an empty page. -/
def EndsListing :
    StreamItem →
    Prop
  | .error _ => True
  | .ok statuses => statuses = []

/--
The page that ends the walk from the page `first` on: the first one that cannot
be read or that is empty, or else the last page that has a number.
-/
structure LastPage
    (replies : List Reply)
    (first last : Nat) : Prop where
  reached : first ≤ last
  inRange : last ≤ PageNumber.greatest
  goesOn : ∀ number, first ≤ number → number < last →
    ¬ EndsListing (pageAt replies first number)
  ends : EndsListing (pageAt replies first last) ∨ last = PageNumber.greatest

/-- The statuses on a page, none where it cannot be read. -/
def statusesOn :
    StreamItem →
    List WorkflowStatus
  | .error _ => []
  | .ok statuses => statuses

/-- The statuses on the pages from `first` up to but not including `bound`. -/
def statusesBelow
    (replies : List Reply)
    (first bound : Nat) :
    List WorkflowStatus :=
  (List.Ico first bound).flatMap fun number =>
    statusesOn (pageAt replies first number)

/--
What a walk gives that ends at the page `last`: the error of that page, or the
statuses of all pages before it, with its own where it is not empty.
-/
def listingUpTo
    (replies : List Reply)
    (first last : Nat) :
    Except QueueError (List WorkflowStatus) :=
  match pageAt replies first last with
  | .error error => .error error
  | .ok [] => .ok (statusesBelow replies first last)
  | .ok (_ :: _) => .ok (statusesBelow replies first (last + 1))

/-- The first page of a walk is the first reply. -/
theorem pageAt_first
    (replies : List Reply)
    (first : Nat) :
    pageAt replies first first =
      Transport.decodeReply (reply replies 0).outcome := by
  simp [pageAt]

/--
What is read from the head of a script is the first page of the walk over it.
-/
theorem pageAt_of_getPage
    {page : PageNumber}
    {session : Session Reply}
    {item : StreamItem}
    (read : (getPage Scripted.transport page session).result = item) :
    pageAt session.replies page.number page.number = item := by
  rw [pageAt_first, ← getPage_result page session]
  exact read

/-- After one page, a walk goes on as the walk that starts at the next page. -/
theorem pageAt_tail
    (replies : List Reply)
    {first number : Nat}
    (later : first < number) :
    pageAt replies.tail (first + 1) number = pageAt replies first number := by
  have position : number - (first + 1) + 1 = number - first := by
    omega
  simp only [pageAt, Scripted.reply_tail, position]

/-- The pages from the first on begin with the first. -/
theorem statusesBelow_cons
    (replies : List Reply)
    {first bound : Nat}
    (within : first < bound) :
    statusesBelow replies first bound =
      statusesOn (pageAt replies first first) ++
        statusesBelow replies.tail (first + 1) bound := by
  unfold statusesBelow
  rw [List.Ico.eq_cons within, List.flatMap_cons]
  congr 1
  apply List.flatMap_congr
  intro number member
  have later := (List.Ico.mem.mp member).1
  rw [pageAt_tail replies (by omega)]

namespace LastPage

/-- The replies determine the page that ends a walk. -/
theorem unique
    {replies : List Reply}
    {first last other : Nat}
    (isLast : LastPage replies first last)
    (otherIsLast : LastPage replies first other) :
    other = last := by
  rcases Nat.lt_trichotomy other last with before | same | after
  · have goesOn := isLast.goesOn other otherIsLast.reached before
    rcases otherIsLast.ends with ends | isGreatest
    · exact (goesOn ends).elim
    · have inRange := isLast.inRange
      omega
  · exact same
  · have goesOn := otherIsLast.goesOn last isLast.reached after
    rcases isLast.ends with ends | isGreatest
    · exact (goesOn ends).elim
    · have inRange := otherIsLast.inRange
      omega

/-- A walk whose first page ends it. -/
theorem of_ends
    {replies : List Reply}
    {page : PageNumber}
    (ends : EndsListing (pageAt replies page.number page.number) ∨
      page.number = PageNumber.greatest) :
    LastPage replies page.number page.number where
  reached := Nat.le_refl page.number
  inRange := page.number_le_greatest
  goesOn := by
    intro number reached before
    omega
  ends := ends

/--
A walk whose first page has statuses ends where the walk after that page ends.
-/
theorem of_tail
    {replies : List Reply}
    {first last : Nat}
    (goesOn : ¬ EndsListing (pageAt replies first first))
    (isLast : LastPage replies.tail (first + 1) last) :
    LastPage replies first last where
  reached := Nat.le_of_succ_le isLast.reached
  inRange := isLast.inRange
  goesOn := by
    intro number reached before
    rcases Nat.eq_or_lt_of_le reached with isFirst | later
    · subst isFirst
      exact goesOn
    · rw [← pageAt_tail replies later]
      exact isLast.goesOn number later before
  ends := by
    rw [← pageAt_tail replies isLast.reached]
    exact isLast.ends

end LastPage

/-! ## One turn of the walk -/

section Turn

variable
  {transport : Transport Message Response}
  {page : PageNumber}
  {pages : UInt32}
  {gathered : List WorkflowStatus}
  {session : Session Response}

/-- A page that cannot be read ends the walk with its error. -/
theorem allFrom_of_error
    {error : QueueError}
    (failed : (getPage transport page session).result = .error error) :
    allFrom transport page pages gathered session =
      (getPage transport page session).map fun _ => .error error := by
  rw [allFrom]
  grind

/-- An empty page ends the walk with what was gathered before it. -/
theorem allFrom_of_empty
    (empty : (getPage transport page session).result = .ok []) :
    allFrom transport page pages gathered session =
      allRead pages gathered (getPage transport page session) := by
  rw [allFrom]
  grind

/-- The last page that has a number ends the walk, and its statuses are kept. -/
theorem allFrom_of_last
    {first : WorkflowStatus}
    {rest : List WorkflowStatus}
    (succeeded : (getPage transport page session).result = .ok (first :: rest))
    (isLast : page.next? = none) :
    allFrom transport page pages gathered session =
      allRead (pages + 1) (gathered ++ first :: rest)
        (getPage transport page session) := by
  rw [allFrom]
  grind

/-- After any other page the walk goes on at the next one. -/
theorem allFrom_of_next
    {first : WorkflowStatus}
    {rest : List WorkflowStatus}
    {next : PageNumber}
    (succeeded : (getPage transport page session).result = .ok (first :: rest))
    (follows : page.next? = some next) :
    allFrom transport page pages gathered session =
      (getPage transport page session).followedBy
        (allFrom transport next (pages + 1) (gathered ++ first :: rest)
          (getPage transport page session).session) := by
  rw [allFrom]
  grind

end Turn

/-! ## The whole walk -/

/-- A walk that ends at its first page gives what comes of that page. -/
theorem listingUpTo_first
    (replies : List Reply)
    (first : Nat) :
    listingUpTo replies first first = pageAt replies first first := by
  unfold listingUpTo
  split
  · next failed =>
      exact failed.symm
  · next empty =>
      simp [statusesBelow, empty]
  · next succeeded =>
      simp [statusesBelow, List.Ico.succ_singleton, succeeded, statusesOn]

/-- What a walk gives that goes on after its first page. -/
theorem listingUpTo_cons
    {replies : List Reply}
    {first last : Nat}
    (later : first < last) :
    listingUpTo replies first last =
      (listingUpTo replies.tail (first + 1) last).map fun statuses =>
        statusesOn (pageAt replies first first) ++ statuses := by
  unfold listingUpTo
  rw [pageAt_tail replies later]
  split
  · rfl
  · simp [Except.map, statusesBelow_cons replies later]
  · simp [Except.map, statusesBelow_cons replies (Nat.lt_succ_of_lt later)]

/-- Nothing gathered before a walk changes nothing. -/
theorem map_nil_append
    (outcome : Except QueueError (List WorkflowStatus)) :
    (outcome.map fun statuses => [] ++ statuses) = outcome := by
  cases outcome <;> rfl

/--
The walk from a page on, with some statuses gathered before it. The induction
follows the walk: a page with statuses uses up the first reply, and the walk
that is left ends at the same page.
-/
theorem allFrom_reads_pages
    (page : PageNumber)
    (pages : UInt32)
    (gathered : List WorkflowStatus)
    (session : Session Reply) :
    ∃ last,
      LastPage session.replies page.number last ∧
        let run := allFrom Scripted.transport page pages gathered session
        run.sent.map Dispatch.message =
            (List.Ico page.number (last + 1)).map listingRequest ∧
          run.result =
            (listingUpTo session.replies page.number last).map fun statuses =>
              gathered ++ statuses := by
  induction page, pages, gathered, session using
    allFrom.induct Scripted.transport with
  | case1 page pages gathered session run error failed =>
      have item :
          pageAt session.replies page.number page.number = .error error :=
        pageAt_of_getPage failed
      refine ⟨page.number, .of_ends (Or.inl ?_), ?_⟩
      · rw [item]
        trivial
      · rw [allFrom_of_error failed, listingUpTo_first, item]
        simp [List.Ico.succ_singleton, pageRequest_eq, Except.map]
  | case2 page pages gathered session run empty =>
      have item : pageAt session.replies page.number page.number = .ok [] :=
        pageAt_of_getPage empty
      refine ⟨page.number, .of_ends (Or.inl ?_), ?_⟩
      · rw [item]
        rfl
      · rw [allFrom_of_empty empty, listingUpTo_first, item]
        simp [List.Ico.succ_singleton, pageRequest_eq, Except.map, allRead]
  | case3 page pages gathered session run first rest succeeded isLast =>
      have item : pageAt session.replies page.number page.number =
          .ok (first :: rest) :=
        pageAt_of_getPage succeeded
      refine ⟨page.number,
        .of_ends (Or.inr (PageNumber.number_of_next?_eq_none isLast)), ?_⟩
      rw [allFrom_of_last succeeded isLast, listingUpTo_first, item]
      simp [List.Ico.succ_singleton, pageRequest_eq, Except.map, allRead]
  | case4 page pages gathered session run first rest succeeded pages' gathered'
      next follows inductionHypothesis =>
      have item : pageAt session.replies page.number page.number =
          .ok (first :: rest) :=
        pageAt_of_getPage succeeded
      obtain ⟨last, isLast, requests, result⟩ := inductionHypothesis
      have number := PageNumber.number_of_next?_eq_some follows
      simp only [run, getPage_session, number] at isLast requests result
      have later : page.number < last := isLast.reached
      refine ⟨last, .of_tail ?_ isLast, ?_, ?_⟩
      · simp [item, EndsListing]
      · rw [allFrom_of_next succeeded follows]
        rw [Run.followedBy_sent, List.map_append]
        rw [List.Ico.eq_cons (Nat.lt_succ_of_lt later),
          List.map_cons, ← requests]
        simp [pageRequest_eq, pages', gathered']
      · rw [allFrom_of_next succeeded follows, listingUpTo_cons later, item]
        rw [Run.followedBy_result, getPage_session, result]
        cases listingUpTo session.replies.tail (page.number + 1) last with
        | error error =>
            rfl
        | ok statuses =>
            simp [Except.map, gathered', statusesOn]

/--
The listing is read from the first page on, one page after another, each once,
up to the page that ends the walk. The walk gives that page's error unchanged,
or all statuses in page order.
-/
theorem all_reads_pages
    (replies : List Reply)
    (now : Nat) :
    ∃ last,
      LastPage replies 1 last ∧
        (∀ other, LastPage replies 1 other → other = last) ∧
          let run := all Scripted.transport { replies := replies, now := now }
          run.sent.map Dispatch.message =
              (List.Ico 1 (last + 1)).map listingRequest ∧
            (run.sent.map Dispatch.message).Nodup ∧
            listingRequest 0 ∉ run.sent.map Dispatch.message ∧
            run.result = listingUpTo replies 1 last := by
  obtain ⟨last, isLast, requests, result⟩ :=
    allFrom_reads_pages PageNumber.first 0 [] { replies := replies, now := now }
  refine ⟨last, isLast, fun other => isLast.unique, requests, ?_, ?_, ?_⟩
  · unfold all
    rw [requests]
    exact List.Nodup.map listingRequest_injective (List.Ico.nodup _ _)
  · unfold all
    rw [requests, List.mem_map_of_injective listingRequest_injective]
    simp [PageNumber.first]
  · unfold all
    rw [result]
    exact map_nil_append _

/-! ## The stream of pages -/

namespace PageStream

section Turn

variable
  {transport : Transport Message Response}
  {page : PageNumber}
  {session : Session Response}

/-- An ended stream sends nothing more. -/
theorem take_ended
    (limit : Nat) :
    take transport (limit + 1) { next := none } session =
      Run.idle { items := [], ended := true } session :=
  rfl

/-- A page that cannot be read is the last item of a stream. -/
theorem take_of_error
    {error : QueueError}
    (limit : Nat)
    (failed : (getPage transport page session).result = .error error) :
    take transport (limit + 2) (start page) session =
      (getPage transport page session).map fun _ =>
        { items := [.error error], ended := true } := by
  simp [take, step, start, ended, failed, Run.map, Run.idle, Run.followedBy]

/-- A stream ends before an empty page. -/
theorem take_of_empty
    (limit : Nat)
    (empty : (getPage transport page session).result = .ok []) :
    take transport (limit + 1) (start page) session =
      (getPage transport page session).map fun _ =>
        { items := [], ended := true } := by
  simp [take, step, start, empty, Run.map]

/-- Any other page is an item of the stream, which goes on after it. -/
theorem take_of_page
    {first : WorkflowStatus}
    {rest : List WorkflowStatus}
    (limit : Nat)
    (succeeded :
      (getPage transport page session).result = .ok (first :: rest)) :
    take transport (limit + 1) (start page) session =
      (getPage transport page session).followedBy
        ((take transport limit { next := page.next? }
            (getPage transport page session).session).map fun taken =>
          { taken with items := .ok (first :: rest) :: taken.items }) := by
  simp [take, step, start, succeeded, Run.map, Run.followedBy]

end Turn

/--
The items that go with the result of a walk: its pages, none of them empty, and
after them the error of a walk that failed.
-/
def Yields
    (items : List StreamItem) :
    Except QueueError (List WorkflowStatus) →
    Prop
  | .ok statuses =>
      ∃ pages : List (List WorkflowStatus),
        items = pages.map .ok ∧ (∀ page ∈ pages, page ≠ []) ∧
          pages.flatten = statuses
  | .error error =>
      ∃ pages : List (List WorkflowStatus),
        items = pages.map .ok ++ [.error error] ∧ ∀ page ∈ pages, page ≠ []

/-- One more page in front of a walk is one more item in front of its items. -/
theorem Yields.cons
    {items : List StreamItem}
    {result : Except QueueError (List WorkflowStatus)}
    {page : List WorkflowStatus}
    (notEmpty : page ≠ [])
    (yields : Yields items result) :
    Yields (.ok page :: items) (result.map fun statuses =>
      page ++ statuses) := by
  cases result with
  | error error =>
      obtain ⟨pages, shape, noneEmpty⟩ := yields
      refine ⟨page :: pages, by simp [shape], ?_⟩
      simpa [notEmpty] using noneEmpty
  | ok statuses =>
      obtain ⟨pages, shape, noneEmpty, together⟩ := yields
      refine ⟨page :: pages, by simp [shape], ?_, by simp [together]⟩
      simpa [notEmpty] using noneEmpty

/--
Taking items up to the end makes the walk of the aggregate, whatever was
gathered before it. The induction follows the walk; the limit has room for one
item a reply, the error of the request after the last, and the end.
-/
theorem take_agrees_allFrom
    (transport : Transport Message Response)
    (page : PageNumber)
    (pages : UInt32)
    (gathered : List WorkflowStatus)
    (session : Session Response)
    (limit : Nat)
    (enough : session.replies.length + 2 ≤ limit) :
    let taken := take transport limit (start page) session
    let run := allFrom transport page pages gathered session
    taken.result.ended = true ∧
      taken.sent = run.sent ∧
      taken.session = run.session ∧
      ∃ outcome,
        run.result = (outcome.map fun statuses => gathered ++ statuses) ∧
          Yields taken.result.items outcome := by
  induction page, pages, gathered, session using allFrom.induct transport
      generalizing limit with
  | case1 page pages gathered session run error failed =>
      obtain ⟨spare, rfl⟩ :=
        Nat.exists_eq_add_of_le' (Nat.le_of_add_left_le enough)
      rw [take_of_error spare failed, allFrom_of_error failed]
      exact ⟨rfl, rfl, rfl, .error error, rfl, [], rfl, by simp⟩
  | case2 page pages gathered session run empty =>
      obtain ⟨spare, rfl⟩ :=
        Nat.exists_eq_add_of_le' (Nat.le_of_add_left_le enough)
      rw [take_of_empty _ empty, allFrom_of_empty empty]
      refine ⟨rfl, rfl, rfl, .ok [], ?_, [], rfl, by simp, rfl⟩
      simp [allRead, Except.map]
  | case3 page pages gathered session run first rest succeeded isLast =>
      obtain ⟨spare, rfl⟩ :=
        Nat.exists_eq_add_of_le' (Nat.le_of_add_left_le enough)
      rw [take_of_page _ succeeded, allFrom_of_last succeeded isLast,
        isLast, take_ended]
      refine ⟨rfl, by simp [allRead], by simp [allRead], .ok (first :: rest),
        rfl, [first :: rest], rfl, by simp, by simp⟩
  | case4 page pages gathered session run first rest succeeded pages' gathered'
      next follows inductionHypothesis =>
      obtain ⟨spare, rfl⟩ :=
        Nat.exists_eq_add_of_le' (Nat.le_of_add_left_le enough)
      have used : run.session.replies.length + 1 = session.replies.length :=
        getPage_replies_length transport page session succeeded
      obtain ⟨ended, sent, left, outcome, result, yields⟩ :=
        inductionHypothesis (spare + 1) (by omega)
      rw [take_of_page _ succeeded, allFrom_of_next succeeded follows, follows]
      refine ⟨ended, ?_, left,
        outcome.map fun statuses => (first :: rest) ++ statuses, ?_, ?_⟩
      · simp only [Run.followedBy_sent, Run.map_sent]
        exact congrArg _ sent
      · rw [Run.followedBy_result, result]
        cases outcome with
        | error error =>
            rfl
        | ok statuses =>
            simp [Except.map, gathered']
      · exact yields.cons (by simp)

/--
The stream of pages and the aggregate are the same walk: drained to its end, the
stream sends the same messages at the same instants, and its items are the pages
that the aggregate joins, or the pages before its error and then that error.
-/
theorem drain_agrees_all
    (transport : Transport Message Response)
    (session : Session Response) :
    let drained := drain transport (start PageNumber.first) session
    let run := all transport session
    drained.result.ended = true ∧
      drained.sent = run.sent ∧
      drained.session = run.session ∧
      Yields drained.result.items run.result := by
  obtain ⟨ended, sent, left, outcome, result, yields⟩ :=
    take_agrees_allFrom transport PageNumber.first 0 [] session
      (session.replies.length + 2) (Nat.le_refl _)
  refine ⟨ended, sent, left, ?_⟩
  have unchanged : (all transport session).result = outcome := by
    unfold all
    rw [result]
    exact map_nil_append outcome
  rw [unchanged]
  exact yields

end PageStream

end Statuses

end WorkflowQueue
