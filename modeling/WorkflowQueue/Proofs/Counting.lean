import Mathlib.Algebra.Ring.Nat
import WorkflowQueue.Proofs.Listing

namespace WorkflowQueue

/-!
# What a walk over the pages counts and reports

While it goes from page to page, the walk keeps a 32-bit count of the pages that
it read, next to the number of the page that it asks for. The two go up
together, so the count reaches no further than the greatest page number.
`Head.Holds` says what the walk holds before each page and what it has reported
until then; the summary at its end follows from the head at the last page.
-/

namespace Event

/--
The page that an event reports as read, and how many statuses it says that page
has.
-/
def pageRead? :
    Event →
    Option (Nat × Nat)
  | .fetchedPage page count => some (page.number, count)
  | _ => none

/-- Whether an event has the level of summaries. -/
def isInfo
    (event : Event) :
    Bool :=
  event.level = .info

end Event

namespace PageNumber

/-- Every page below the last one has a successor. -/
theorem exists_next?
    {page : PageNumber}
    (below : page.number < greatest) :
    ∃ next, page.next? = some next := by
  have follows : page.number + 1 < 4294967296 := Nat.succ_lt_succ below
  exact ⟨_, dif_pos follows⟩

/-- The last page has none. -/
theorem next?_of_greatest
    {page : PageNumber}
    (isGreatest : page.number = greatest) :
    page.next? = none := by
  have beyond : ¬page.number + 1 < 4294967296 := by
    rw [isGreatest]
    exact Nat.lt_irrefl _
  exact dif_neg beyond

end PageNumber

namespace Statuses

/-! ## Pages that are read -/

/-- A page after which a walk goes on has statuses. -/
theorem exists_statuses_of_goesOn
    {item : StreamItem}
    (goesOn : ¬ EndsListing item) :
    ∃ first rest, item = .ok (first :: rest) := by
  cases item with
  | error error => exact (goesOn trivial).elim
  | ok statuses =>
      cases statuses with
      | nil => exact (goesOn rfl).elim
      | cons first rest => exact ⟨first, rest, rfl⟩

/-- A page that is read, as its number and its statuses. -/
def decoded
    (number : Nat) :
    StreamItem →
    Option (Nat × List WorkflowStatus)
  | .error _ => none
  | .ok statuses => some (number, statuses)

/--
The pages that are read, from the first one up to but not including `bound`.
-/
def pagesBelow
    (replies : List Reply)
    (bound : Nat) :
    List (Nat × List WorkflowStatus) :=
  (List.Ico 1 bound).filterMap fun number =>
    decoded number (pageAt replies 1 number)

/-- The statuses on some pages are those on the pages that are read. -/
theorem flatMap_decoded
    (items : Nat → StreamItem)
    (numbers : List Nat) :
    (numbers.filterMap fun number => decoded number (items number)).flatMap
        Prod.snd =
      numbers.flatMap fun number => statusesOn (items number) := by
  induction numbers with
  | nil => rfl
  | cons number rest inductionHypothesis =>
      rw [List.flatMap_cons, ← inductionHypothesis]
      cases read : items number with
      | error error => simp [read, decoded, statusesOn]
      | ok statuses => simp [read, decoded, statusesOn]

theorem statusesBelow_eq_flatMap
    (replies : List Reply)
    (bound : Nat) :
    statusesBelow replies 1 bound =
      (pagesBelow replies bound).flatMap Prod.snd :=
  (flatMap_decoded _ _).symm

/-- The page at the bound comes last. -/
theorem pagesBelow_succ
    (replies : List Reply)
    {bound : Nat}
    (positive : 1 ≤ bound) :
    pagesBelow replies (bound + 1) =
      pagesBelow replies bound ++
        (decoded bound (pageAt replies 1 bound)).toList := by
  unfold pagesBelow
  rw [List.Ico.succ_top positive, List.filterMap_append]
  cases read : decoded bound (pageAt replies 1 bound) with
  | none => simp [read]
  | some page => simp [read]

theorem statusesBelow_succ
    (replies : List Reply)
    {bound : Nat}
    (positive : 1 ≤ bound) :
    statusesBelow replies 1 (bound + 1) =
      statusesBelow replies 1 bound ++ statusesOn (pageAt replies 1 bound) := by
  unfold statusesBelow
  rw [List.Ico.succ_top positive, List.flatMap_append, List.flatMap_singleton]

/-- Whether a page that was read has statuses. -/
def isFilled
    (page : Nat × List WorkflowStatus) :
    Bool :=
  !page.2.isEmpty

/-- What a walk reports of a page that was read. -/
def reported
    (page : Nat × List WorkflowStatus) :
    Nat × Nat :=
  (page.1, page.2.length)

/-- The reported counts add up to the number of statuses. -/
theorem sum_reported
    (pages : List (Nat × List WorkflowStatus)) :
    ((pages.map reported).map Prod.snd).sum =
      (pages.flatMap Prod.snd).length := by
  rw [List.length_flatMap, List.map_map]
  rfl

/-! ## Before each page -/

/-- What a walk holds before it asks for a page. -/
structure Head (Response : Type) where
  page : PageNumber
  pages : UInt32
  gathered : List WorkflowStatus
  session : Session Response

namespace Head

/-- Before the first page. -/
def start
    (session : Session Response) :
    Head Response where
  page := .first
  pages := 0
  gathered := []
  session := session

section Walk

variable
  (transport : Transport Message Response)

/-- The page that a walk asks for next. -/
def reading
    (head : Head Response) :
    Run Message Response StreamItem :=
  getPage transport head.page head.session

/-- The walk from there on. -/
def onward
    (head : Head Response) :
    Run Message Response (Except QueueError (List WorkflowStatus)) :=
  allFrom transport head.page head.pages head.gathered head.session

/-- Before the page that follows, when statuses were read. -/
def next
    (head : Head Response)
    (page : PageNumber)
    (statuses : List WorkflowStatus) :
    Head Response where
  page := page
  pages := head.pages + 1
  gathered := head.gathered ++ statuses
  session := (head.reading transport).session

/-- The heads that a walk comes to, one for every page that it asks for. -/
inductive Reached
    (session : Session Response) :
    Head Response →
    Prop where
  | start : Reached session (Head.start session)
  | next
      {head : Head Response}
      {page : PageNumber}
      {first : WorkflowStatus}
      {rest : List WorkflowStatus}
      (reached : Reached session head)
      (succeeded : (head.reading transport).result = .ok (first :: rest))
      (follows : head.page.next? = some page) :
      Reached session (head.next transport page (first :: rest))

end Walk

/--
What is true before each page: one page was counted for every number below,
which are as many as had statuses, the statuses of exactly these pages were
gathered, none of them is missing or empty, and the replies to them are used up.
-/
structure Holds
    (replies : List Reply)
    (head : Head Reply) : Prop where
  counted : head.pages.toNat + 1 = head.page.number
  countsFilled :
    head.pages.toNat = (pagesBelow replies head.page.number).countP isFilled
  gathers : head.gathered = statusesBelow replies 1 head.page.number
  filled :
    ∀ number, 1 ≤ number → number < head.page.number →
      ¬ EndsListing (pageAt replies 1 number)
  left : head.session.replies = replies.drop (head.page.number - 1)

/--
A walk does what it did before a head and then what it does from there on.
Before a head it has reported every page below as read, in order, and has told
nothing else.
-/
structure Precedes
    (replies : List Reply)
    (whole : Run Request Reply (Except QueueError (List WorkflowStatus)))
    (head : Head Reply)
    (earlier : Run Request Reply Unit) : Prop where
  continued : whole = earlier.followedBy (head.onward Scripted.transport)
  pagesRead :
    earlier.events.filterMap Event.pageRead? =
      (pagesBelow replies head.page.number).map reported
  quiet : earlier.events.filter Event.isInfo = []

/-! ## From one page to the next -/

section Step

variable
  {replies : List Reply}
  {head : Head Reply}

/-- One page more can be counted, whichever page is read. -/
theorem Holds.count_succ
    (holds : Holds replies head) :
    (head.pages + 1).toNat = head.page.number := by
  have inRange : head.page.number < 2 ^ 32 := head.page.inRange.2
  rw [UInt32.toNat_add, UInt32.toNat_one, holds.counted]
  exact Nat.mod_eq_of_lt inRange

/-- What is read at a head is the page of its number. -/
theorem Holds.reading_result
    (holds : Holds replies head) :
    (head.reading Scripted.transport).result =
      pageAt replies 1 head.page.number := by
  rw [reading, getPage_result, holds.left, Scripted.reply_drop]
  rfl

/-- After a page that is read, its statuses are gathered as well. -/
theorem Holds.gathers_succ
    (holds : Holds replies head)
    {statuses : List WorkflowStatus}
    (succeeded : (head.reading Scripted.transport).result = .ok statuses) :
    head.gathered ++ statuses =
      statusesBelow replies 1 (head.page.number + 1) := by
  rw [statusesBelow_succ replies head.page.inRange.1, ← holds.reading_result,
    succeeded, holds.gathers]
  rfl

/-- After a page with statuses, one page more is counted. -/
theorem Holds.countsFilled_succ
    (holds : Holds replies head)
    {first : WorkflowStatus}
    {rest : List WorkflowStatus}
    (succeeded :
      (head.reading Scripted.transport).result = .ok (first :: rest)) :
    (head.pages + 1).toNat =
      (pagesBelow replies (head.page.number + 1)).countP isFilled := by
  rw [holds.count_succ, pagesBelow_succ replies head.page.inRange.1,
    ← holds.reading_result, succeeded, List.countP_append, ← holds.countsFilled,
    ← holds.counted]
  rfl

/-- What is told of a page is that it was read, if it was. -/
theorem reading_pageRead?
    (head : Head Reply) :
    (head.reading Scripted.transport).events.filterMap Event.pageRead? =
      (decoded head.page.number
        (head.reading Scripted.transport).result).toList.map
        reported := by
  rw [reading, getPage_events, getPage_result]
  split
  · next statuses read =>
      rw [read]
      rfl
  · next error read =>
      rw [read]
      rfl

theorem reading_isInfo
    (head : Head Reply) :
    (head.reading Scripted.transport).events.filter Event.isInfo = [] := by
  rw [reading, getPage_events]
  split <;> rfl

section Told

variable
  {whole : Run Request Reply (Except QueueError (List WorkflowStatus))}
  {earlier : Run Request Reply Unit}
  (precedes : Precedes replies whole head earlier)

include precedes

/-- With the page of a head, every page up to it was reported. -/
theorem Precedes.pagesRead_reading
    (holds : Holds replies head) :
    (earlier.events ++ (head.reading Scripted.transport).events).filterMap
        Event.pageRead? =
      (pagesBelow replies (head.page.number + 1)).map reported := by
  rw [List.filterMap_append, precedes.pagesRead, reading_pageRead?,
    holds.reading_result, pagesBelow_succ replies head.page.inRange.1,
    List.map_append]

/-- Until then there is no summary. -/
theorem Precedes.quiet_reading :
    (earlier.events ++ (head.reading Scripted.transport).events).filter
      Event.isInfo = [] := by
  rw [List.filter_append, precedes.quiet, reading_isInfo, List.append_nil]

end Told

variable
  {page : PageNumber}
  {first : WorkflowStatus}
  {rest : List WorkflowStatus}

/-- What is true before a page is true before the page that follows it. -/
theorem Holds.next
    (holds : Holds replies head)
    (succeeded : (head.reading Scripted.transport).result = .ok (first :: rest))
    (follows : head.page.next? = some page) :
    Holds replies (head.next Scripted.transport page (first :: rest)) := by
  have number : page.number = head.page.number + 1 :=
    PageNumber.number_of_next?_eq_some follows
  have positive : 1 ≤ head.page.number := head.page.inRange.1
  constructor
  case counted =>
    simp only [Head.next]
    rw [holds.count_succ, number]
  case countsFilled =>
    simp only [Head.next]
    rw [number, holds.countsFilled_succ succeeded]
  case gathers =>
    simp only [Head.next]
    rw [number, holds.gathers_succ succeeded]
  case filled =>
    intro other reached before
    rcases Nat.lt_succ_iff_lt_or_eq.mp (number ▸ before) with earlier | isHead
    · exact holds.filled other reached earlier
    · rw [isHead, ← holds.reading_result, succeeded]
      exact List.cons_ne_nil first rest
  case left =>
    simp only [Head.next, reading, getPage_session]
    rw [holds.left, List.tail_drop, number, Nat.sub_add_cancel positive,
      Nat.add_sub_cancel]

/-- After one more page, a walk has reported that page as well. -/
theorem Precedes.next
    {whole : Run Request Reply (Except QueueError (List WorkflowStatus))}
    {earlier : Run Request Reply Unit}
    (precedes : Precedes replies whole head earlier)
    (holds : Holds replies head)
    (succeeded : (head.reading Scripted.transport).result = .ok (first :: rest))
    (follows : head.page.next? = some page) :
    Precedes replies whole (head.next Scripted.transport page (first :: rest))
      (earlier.followedBy
        ((head.reading Scripted.transport).map fun _ => ())) := by
  have number : page.number = head.page.number + 1 :=
    PageNumber.number_of_next?_eq_some follows
  constructor
  case continued =>
    rw [precedes.continued, onward, allFrom_of_next succeeded follows]
    simp [Run.followedBy, Run.map, Head.next, onward, reading]
  case pagesRead =>
    simp only [Head.next, number]
    exact precedes.pagesRead_reading holds
  case quiet => exact precedes.quiet_reading

end Step

/-! ## All the way -/

section Run

variable
  {replies : List Reply}
  {now : Nat}
  {head : Head Reply}

/-- What a walk holds is true at every head. -/
theorem Reached.holds
    (reached :
      Reached Scripted.transport { replies := replies, now := now } head) :
    Holds replies head := by
  induction reached with
  | start =>
      constructor
      case counted => rfl
      case countsFilled => simp [Head.start, pagesBelow, PageNumber.first]
      case gathers => simp [Head.start, statusesBelow, PageNumber.first]
      case filled =>
        intro number positive before
        exact (Nat.not_lt.mpr positive before).elim
      case left => rfl
  | next _ succeeded follows inductionHypothesis =>
      exact inductionHypothesis.next succeeded follows

/-- A walk passes every head. -/
theorem Reached.exists_precedes
    (reached :
      Reached Scripted.transport { replies := replies, now := now } head) :
    ∃ earlier,
      Precedes replies
        (all Scripted.transport { replies := replies, now := now }) head
        earlier := by
  induction reached with
  | start =>
      refine ⟨Run.idle () { replies := replies, now := now }, rfl, ?_, rfl⟩
      simp [Head.start, pagesBelow, PageNumber.first]
  | next reached succeeded follows inductionHypothesis =>
      obtain ⟨earlier, precedes⟩ := inductionHypothesis
      exact ⟨_, precedes.next reached.holds succeeded follows⟩

/-- No head lies beyond the page that ends the walk. -/
theorem Reached.le_last
    {last : Nat}
    (reached :
      Reached Scripted.transport { replies := replies, now := now } head)
    (isLast : LastPage replies 1 last) :
    head.page.number ≤ last := by
  refine Nat.le_of_not_lt fun beyond => ?_
  rcases isLast.ends with ends | isGreatest
  · exact reached.holds.filled last isLast.reached beyond ends
  · have inRange := head.page.number_le_greatest
    omega

/-- A walk comes to every page up to the one that ends it. -/
theorem exists_reached
    (now : Nat)
    {last number : Nat}
    (isLast : LastPage replies 1 last)
    (positive : 1 ≤ number)
    (within : number ≤ last) :
    ∃ head : Head Reply,
      Reached Scripted.transport { replies := replies, now := now } head ∧
        head.page.number = number := by
  induction number, positive using Nat.le_induction with
  | base => exact ⟨_, .start, rfl⟩
  | succ number positive inductionHypothesis =>
      obtain ⟨head, reached, isNumber⟩ :=
        inductionHypothesis (Nat.le_of_succ_le within)
      subst isNumber
      obtain ⟨first, rest, item⟩ :=
        exists_statuses_of_goesOn
          (isLast.goesOn head.page.number positive within)
      obtain ⟨page, follows⟩ :=
        PageNumber.exists_next? (Nat.lt_of_lt_of_le within isLast.inRange)
      have succeeded := reached.holds.reading_result.trans item
      exact ⟨_, reached.next succeeded follows,
        PageNumber.number_of_next?_eq_some follows⟩

end Run

end Head

/-! ## The summary -/

/--
What a walk tells that ends at the page `last`: every page that was read, in
order, with its count, and at the end of a walk that succeeds one summary with
the number of pages that had statuses and the number of statuses. A walk that
fails tells no summary.
-/
structure Summarizes
    (replies : List Reply)
    (last : Nat)
    (run : Run Request Reply (Except QueueError (List WorkflowStatus))) :
      Prop where
  pagesRead :
    run.events.filterMap Event.pageRead? =
      (pagesBelow replies (last + 1)).map reported
  silent :
    ∀ error, run.result = .error error → run.events.filter Event.isInfo = []
  summary :
    ∀ statuses, run.result = .ok statuses →
      statuses = (pagesBelow replies (last + 1)).flatMap Prod.snd ∧
        ∃ pages : UInt32,
          run.events.filter Event.isInfo = [.aggregated pages statuses.length] ∧
            pages.toNat = (pagesBelow replies (last + 1)).countP isFilled

namespace Summarizes

variable
  {replies : List Reply}
  {last : Nat}
  {run : Run Request Reply (Except QueueError (List WorkflowStatus))}

/-- There is one summary exactly when the walk succeeds. -/
theorem length_isInfo_iff
    (summarizes : Summarizes replies last run) :
    (run.events.filter Event.isInfo).length = 1 ↔
      ∃ statuses, run.result = .ok statuses := by
  cases result : run.result with
  | error error => simp [summarizes.silent error result]
  | ok statuses =>
      obtain ⟨-, pages, summary, -⟩ := summarizes.summary statuses result
      simp [summary]

/-- The counts of the pages add up to the number of statuses. -/
theorem sum_counts
    (summarizes : Summarizes replies last run)
    {statuses : List WorkflowStatus}
    (succeeded : run.result = .ok statuses) :
    ((run.events.filterMap Event.pageRead?).map Prod.snd).sum =
      statuses.length := by
  rw [summarizes.pagesRead, sum_reported,
    ← (summarizes.summary statuses succeeded).1]

end Summarizes

section Last

variable
  {replies : List Reply}
  {whole : Run Request Reply (Except QueueError (List WorkflowStatus))}
  {head : Head Reply}
  {earlier : Run Request Reply Unit}
  (precedes : head.Precedes replies whole earlier)
  (holds : head.Holds replies)

include precedes holds

/-- A walk whose last page cannot be read has no summary. -/
theorem Head.Precedes.summarizes_of_error
    {error : QueueError}
    (failed : (head.reading Scripted.transport).result = .error error) :
    Summarizes replies head.page.number whole := by
  have ended :
      head.onward Scripted.transport =
        (head.reading Scripted.transport).map fun _ => .error error :=
    allFrom_of_error failed
  rw [precedes.continued, ended]
  constructor
  case pagesRead => exact precedes.pagesRead_reading holds
  case silent => exact fun _ _ => precedes.quiet_reading
  case summary =>
    intro statuses succeeded
    cases succeeded

/--
A walk that ends with what it holds after its last page has the right summary,
if the count and the statuses are right.
-/
theorem Head.Precedes.summarizes_of_allRead
    {gathered : List WorkflowStatus}
    {pages : UInt32}
    (ended :
      head.onward Scripted.transport =
        allRead pages gathered (head.reading Scripted.transport))
    (counted :
      pages.toNat = (pagesBelow replies (head.page.number + 1)).countP isFilled)
    (gathers : gathered = statusesBelow replies 1 (head.page.number + 1)) :
    Summarizes replies head.page.number whole := by
  have told :
      whole.events =
        (earlier.events ++ (head.reading Scripted.transport).events) ++
          [.aggregated pages gathered.length] := by
    rw [precedes.continued, ended, List.append_assoc]
    rfl
  have result : whole.result = .ok gathered := by
    rw [precedes.continued, ended]
    rfl
  constructor
  case pagesRead =>
    rw [told, List.filterMap_append, precedes.pagesRead_reading holds]
    exact List.append_nil _
  case silent =>
    intro error failed
    rw [result] at failed
    cases failed
  case summary =>
    intro statuses succeeded
    obtain rfl : gathered = statuses :=
      Except.ok.inj (result.symm.trans succeeded)
    refine ⟨gathers.trans (statusesBelow_eq_flatMap replies _),
      pages, ?_, counted⟩
    rw [told, List.filter_append, precedes.quiet_reading]
    rfl

end Last

/-- A walk has the summary that its last page gives it. -/
theorem all_summarizes
    {replies : List Reply}
    {last : Nat}
    (now : Nat)
    (isLast : LastPage replies 1 last) :
    Summarizes replies last
      (all Scripted.transport { replies := replies, now := now }) := by
  obtain ⟨head, reached, rfl⟩ :=
    Head.exists_reached now isLast isLast.reached (Nat.le_refl last)
  obtain ⟨earlier, precedes⟩ := reached.exists_precedes
  have holds := reached.holds
  cases read : (head.reading Scripted.transport).result with
  | error error => exact precedes.summarizes_of_error holds read
  | ok statuses =>
      have gathers := holds.gathers_succ read
      cases statuses with
      | nil =>
          rw [List.append_nil] at gathers
          refine precedes.summarizes_of_allRead holds
            (allFrom_of_empty read) ?_ gathers
          rw [pagesBelow_succ replies head.page.inRange.1,
            ← holds.reading_result, read, List.countP_append,
            ← holds.countsFilled]
          rfl
      | cons first rest =>
          have isGreatest : head.page.number = PageNumber.greatest := by
            refine isLast.ends.resolve_left fun ends => ?_
            rw [← holds.reading_result, read] at ends
            exact List.cons_ne_nil first rest ends
          have isFinal : head.page.next? = none :=
            PageNumber.next?_of_greatest isGreatest
          exact precedes.summarizes_of_allRead holds
            (allFrom_of_last read isFinal)
            (holds.countsFilled_succ read) gathers

/--
Before every page that a walk asks for, it has counted the pages below, without
overflow whichever page is next, and holds the statuses of exactly these pages.
It comes to every page up to the last and to no other, and its summary is true:
there is one exactly when the walk succeeds, with the number of pages that had
statuses and the number of all statuses, to which the counts reported page by
page add up.
-/
theorem all_counts_pages
    (replies : List Reply)
    (now : Nat) :
    ∃ last,
      LastPage replies 1 last ∧
        let session : Session Reply := { replies := replies, now := now }
        let run := all Scripted.transport session
        (∀ number,
            (1 ≤ number ∧ number ≤ last) ↔
              ∃ head, Head.Reached Scripted.transport session head ∧
                head.page.number = number) ∧
          (∀ head, Head.Reached Scripted.transport session head →
            (∃ earlier : Run Request Reply Unit,
                run =
                  earlier.followedBy
                    (allFrom Scripted.transport head.page head.pages
                      head.gathered head.session)) ∧
              head.pages.toNat = head.page.number - 1 ∧
              (head.pages + 1).toNat = head.pages.toNat + 1 ∧
              head.gathered = statusesBelow replies 1 head.page.number) ∧
          Summarizes replies last run ∧
          ((run.events.filter Event.isInfo).length = 1 ↔
            ∃ statuses, run.result = .ok statuses) ∧
          ∀ statuses, run.result = .ok statuses →
            ((run.events.filterMap Event.pageRead?).map Prod.snd).sum =
              statuses.length := by
  obtain ⟨last, isLast, -⟩ :=
    allFrom_reads_pages PageNumber.first 0 [] { replies := replies, now := now }
  have summarizes := all_summarizes now isLast
  refine ⟨last, isLast, ?_, ?_, summarizes,
      summarizes.length_isInfo_iff, fun _ =>
    summarizes.sum_counts⟩
  · intro number
    constructor
    · rintro ⟨positive, within⟩
      exact Head.exists_reached now isLast positive within
    · rintro ⟨head, reached, rfl⟩
      exact ⟨head.page.inRange.1, reached.le_last isLast⟩
  · intro head reached
    have holds := reached.holds
    obtain ⟨earlier, precedes⟩ := reached.exists_precedes
    refine ⟨⟨earlier, precedes.continued⟩, ?_, ?_, holds.gathers⟩
    · rw [← holds.counted, Nat.add_sub_cancel]
    · rw [holds.count_succ, holds.counted]

end Statuses

end WorkflowQueue
