import WorkflowQueue.Proofs.Listing

namespace WorkflowQueue.Statuses

/-!
# Pages taken one by one

Whoever takes items from the stream of pages may stop at any time. What was
taken and asked for until then is a beginning of the whole walk:
`take_of_lastPage` says so for every count. It follows that the stream is never
ahead of its consumer, and what one more item costs.
-/

/-! ## The walk behind a stream -/

namespace LastPage

variable
  {replies : List Reply}
  {first last : Nat}

/-- After one page, a walk that goes on ends where it would have ended. -/
theorem tail
    (isLast : LastPage replies first last)
    (later : first < last) :
    LastPage replies.tail (first + 1) last where
  reached := later
  inRange := isLast.inRange
  goesOn := by
    intro number reached before
    rw [pageAt_tail replies reached]
    exact isLast.goesOn number (Nat.le_of_succ_le reached) before
  ends := by
    rw [pageAt_tail replies later]
    exact isLast.ends

/--
A walk ends at its first page where that page ends it or is the last one with a
number.
-/
theorem eq_first
    {page : PageNumber}
    (isLast : LastPage replies page.number last)
    (ends : EndsListing (pageAt replies page.number page.number) ∨
      page.number = PageNumber.greatest) :
    page.number = last :=
  isLast.unique (.of_ends ends)

/-- A walk goes on after a page with statuses that has a successor. -/
theorem first_lt
    (isLast : LastPage replies first last)
    (goesOn : ¬EndsListing (pageAt replies first first))
    (notGreatest : first ≠ PageNumber.greatest) :
    first < last := by
  refine Nat.lt_of_le_of_ne isLast.reached fun atOnce => ?_
  subst atOnce
  rcases isLast.ends with ends | isGreatest
  · exact goesOn ends
  · exact notGreatest isGreatest

/-- Past the end of a script every page is refused, so no walk goes beyond. -/
theorem le_length
    (isLast : LastPage replies first last) :
    last ≤ first + replies.length := by
  refine Nat.le_of_not_lt fun beyond => ?_
  refine isLast.goesOn (first + replies.length) (Nat.le_add_right _ _) beyond ?_
  simp [pageAt, Scripted.reply, Transport.decodeReply, EndsListing]

/-- Every walk ends at some page. -/
theorem exists_of_start
    (page : PageNumber)
    (replies : List Reply) :
    ∃ last, LastPage replies page.number last := by
  obtain ⟨last, isLast, -⟩ :=
    allFrom_reads_pages page 0 [] { replies := replies, now := 0 }
  exact ⟨last, isLast⟩

end LastPage

namespace PageStream

/-! ## Items -/

/--
The items that the last page of a walk gives: none where the page is empty.
-/
def lastItems :
    StreamItem →
    List StreamItem
  | .error error => [.error error]
  | .ok [] => []
  | .ok (first :: rest) => [.ok (first :: rest)]

/-- The items of the walk from the page `first` to the page `last`. -/
def itemsUpTo
    (replies : List Reply)
    (first last : Nat) :
    List StreamItem :=
  (List.Ico first last).map (pageAt replies first) ++
    lastItems (pageAt replies first last)

/-- A walk that ends at its first page has the items of that page. -/
theorem itemsUpTo_first
    (replies : List Reply)
    (first : Nat) :
    itemsUpTo replies first first = lastItems (pageAt replies first first) := by
  simp [itemsUpTo]

/-- A walk that goes on has its first page as its first item. -/
theorem itemsUpTo_cons
    {replies : List Reply}
    {first last : Nat}
    (later : first < last) :
    itemsUpTo replies first last =
      pageAt replies first first ::
        itemsUpTo replies.tail (first + 1) last := by
  unfold itemsUpTo
  rw [List.Ico.eq_cons later, pageAt_tail replies later, List.map_cons,
    List.cons_append]
  congr 2
  apply List.map_congr_left
  intro number member
  rw [pageAt_tail replies (List.Ico.mem.mp member).1]

/-! ## One turn of a stream -/

/--
From an ended stream nothing is taken, and its end is seen by the first attempt.
-/
theorem take_none
    (transport : Transport Message Response)
    (session : Session Response)
    (limit : Nat) :
    take transport limit { next := none } session =
      Run.idle { items := [], ended := decide (0 < limit) } session := by
  cases limit with
  | zero =>
      rfl
  | succ limit =>
      simp [take_ended]

section Turn

variable
  {transport : Transport Message Response}
  {page : PageNumber}
  {session : Session Response}

/--
A page that cannot be read is the last item, and the end is seen by the next
attempt.
-/
theorem take_of_failure
    {error : QueueError}
    (limit : Nat)
    (failed : (getPage transport page session).result = .error error) :
    take transport (limit + 1) (start page) session =
      (getPage transport page session).map fun _ =>
        { items := [.error error], ended := decide (0 < limit) } := by
  have nothing :=
    take_none transport (getPage transport page session).session limit
  simp [take, step, start, ended, failed, nothing, Run.map, Run.idle,
    Run.followedBy]

/-- So is the last page that has a number. -/
theorem take_of_lastNumber
    {first : WorkflowStatus}
    {rest : List WorkflowStatus}
    (limit : Nat)
    (succeeded : (getPage transport page session).result = .ok (first :: rest))
    (isLast : page.next? = none) :
    take transport (limit + 1) (start page) session =
      (getPage transport page session).map fun _ =>
        { items := [.ok (first :: rest)], ended := decide (0 < limit) } := by
  rw [take_of_page limit succeeded, isLast, take_none]
  simp [Run.map, Run.idle, Run.followedBy]

end Turn

/-! ## Any number of items -/

/--
Items taken from a stream, however many, are the first items of its walk, and
cost the first requests of it. The induction is on the count; every turn but the
last one takes a page with statuses off the walk.
-/
theorem take_of_lastPage
    (limit : Nat)
    {page : PageNumber}
    {session : Session Reply}
    {last : Nat}
    (isLast : LastPage session.replies page.number last) :
    let taken := take Scripted.transport limit (start page) session
    let items := itemsUpTo session.replies page.number last
    taken.result =
        { items := items.take limit, ended := decide (items.length < limit) } ∧
      taken.sent.map Dispatch.message =
        ((List.Ico page.number (last + 1)).map listingRequest).take limit := by
  induction limit generalizing page session with
  | zero =>
      exact ⟨by simp [take], by simp [take]⟩
  | succ limit inductionHypothesis =>
      cases read : (getPage Scripted.transport page session).result with
      | error error =>
          have item := pageAt_of_getPage read
          have atOnce := isLast.eq_first (Or.inl (item ▸ trivial))
          subst atOnce
          rw [take_of_failure limit read, itemsUpTo_first, item]
          simp [lastItems, List.Ico.succ_singleton, pageRequest_eq]
      | ok statuses =>
          have item := pageAt_of_getPage read
          cases statuses with
          | nil =>
              have atOnce := isLast.eq_first (Or.inl (item ▸ rfl))
              subst atOnce
              rw [take_of_empty limit read, itemsUpTo_first, item]
              simp [lastItems, List.Ico.succ_singleton, pageRequest_eq]
          | cons first rest =>
              cases follows : page.next? with
              | none =>
                  have atOnce := isLast.eq_first
                    (Or.inr (PageNumber.number_of_next?_eq_none follows))
                  subst atOnce
                  rw [take_of_lastNumber limit read follows,
                    itemsUpTo_first, item]
                  simp [lastItems, List.Ico.succ_singleton, pageRequest_eq]
              | some next =>
                  have number := PageNumber.number_of_next?_eq_some follows
                  have later : page.number < last := by
                    refine isLast.first_lt (by simp [item, EndsListing]) ?_
                    have inRange := next.number_le_greatest
                    omega
                  have tail := isLast.tail later
                  rw [← number] at tail
                  obtain ⟨result, requests⟩ := @inductionHypothesis next
                    (getPage Scripted.transport page session).session
                      (by simpa using tail)
                  rw [take_of_page limit read, follows, itemsUpTo_cons later,
                    item, List.Ico.eq_cons (Nat.lt_succ_of_lt later)]
                  simp only [start, getPage_session, number] at result requests
                  exact ⟨by simp [result], by simp [requests, pageRequest_eq]⟩

/-! ## Where a consumer stands -/

/--
After some items a stream has nothing left to ask for: it has yielded an error,
or the last page that has a number.
-/
def IsExhausted
    (first : Nat)
    (items : List StreamItem) :
    Prop :=
  (∃ error, .error error ∈ items) ∨
    first + items.length = PageNumber.greatest + 1

theorem lastItems_length_le
    (item : StreamItem) :
    (lastItems item).length ≤ 1 := by
  unfold lastItems
  split <;> simp

theorem lastItems_of_ne
    {item : StreamItem}
    (notEmpty : item ≠ .ok []) :
    lastItems item = [item] := by
  unfold lastItems
  split
  · rfl
  · exact (notEmpty rfl).elim
  · rfl

section Items

variable
  {replies : List Reply}
  {first last count : Nat}

theorem length_itemsUpTo
    (replies : List Reply)
    (first last : Nat) :
    (itemsUpTo replies first last).length =
      last - first + (lastItems (pageAt replies first last)).length := by
  simp [itemsUpTo]

/-- The first numbers of an interval are an interval. -/
theorem take_Ico
    {bound : Nat}
    (within : first + count ≤ bound) :
    (List.Ico first bound).take count = List.Ico first (first + count) := by
  rw [← List.Ico.append_consecutive (Nat.le_add_right first count) within,
    List.take_left' (by simp)]

/-- Before the last page, every page is an item. -/
theorem itemsUpTo_take_of_le
    (within : first + count ≤ last) :
    (itemsUpTo replies first last).take count =
      (List.Ico first (first + count)).map (pageAt replies first) := by
  have enough :
      count ≤ ((List.Ico first last).map (pageAt replies first)).length := by
    simp
    omega
  rw [itemsUpTo, List.take_append_of_le_length enough, ← List.map_take,
    take_Ico within]

/-- Before the last page, neither an error nor an empty page is yielded. -/
theorem goesOn_of_mem_take
    (isLast : LastPage replies first last)
    (within : first + count ≤ last)
    {item : StreamItem}
    (member : item ∈ (itemsUpTo replies first last).take count) :
    ¬EndsListing item := by
  rw [itemsUpTo_take_of_le within] at member
  obtain ⟨number, inRange, rfl⟩ := List.mem_map.mp member
  obtain ⟨reached, below⟩ := List.Ico.mem.mp inRange
  exact isLast.goesOn number reached (Nat.lt_of_lt_of_le below within)

/--
Up to the last page, each further page adds its item, or none where it is empty.
-/
theorem itemsUpTo_take_succ
    (isLast : LastPage replies first last)
    (within : first + count ≤ last) :
    (itemsUpTo replies first last).take (count + 1) =
      (itemsUpTo replies first last).take count ++
        lastItems (pageAt replies first (first + count)) := by
  rcases Nat.lt_or_eq_of_le within with before | atLast
  · have goesOn :=
      isLast.goesOn (first + count) (Nat.le_add_right first count) before
    have notEmpty : pageAt replies first (first + count) ≠ .ok [] := by
      intro isEmpty
      rw [isEmpty] at goesOn
      exact goesOn rfl
    rw [itemsUpTo_take_of_le (Nat.succ_le_of_lt before),
      itemsUpTo_take_of_le within, lastItems_of_ne notEmpty, ← Nat.add_assoc,
      List.Ico.succ_top (Nat.le_add_right first count), List.map_append,
      List.map_singleton]
  · have whole : (itemsUpTo replies first last).length ≤ count + 1 := by
      have atMostOne := lastItems_length_le (pageAt replies first last)
      rw [length_itemsUpTo]
      omega
    rw [List.take_of_length_le whole, itemsUpTo_take_of_le within,
      atLast, itemsUpTo]

/-- The end is seen right after the items before an empty page. -/
theorem length_itemsUpTo_lt_iff
    (isLast : LastPage replies first last)
    (within : first + count ≤ last) :
    (itemsUpTo replies first last).length < count + 1 ↔
      pageAt replies first (first + count) = .ok [] := by
  rw [length_itemsUpTo]
  constructor
  · intro few
    have atLast : first + count = last := by omega
    rw [atLast]
    by_contra notEmpty
    rw [lastItems_of_ne notEmpty, List.length_singleton] at few
    omega
  · intro isEmpty
    have atLast : first + count = last := by
      refine Nat.le_antisymm within (Nat.le_of_not_lt fun before => ?_)
      refine isLast.goesOn (first + count)
        (Nat.le_add_right first count) before ?_
      rw [isEmpty]
      rfl
    rw [← atLast, isEmpty]
    simp [lastItems]

/-- No item is an empty page. -/
theorem ne_empty_of_mem_itemsUpTo
    (isLast : LastPage replies first last)
    {item : StreamItem}
    (member : item ∈ itemsUpTo replies first last) :
    item ≠ .ok [] := by
  rcases List.mem_append.mp member with before | atLast
  · obtain ⟨number, inRange, rfl⟩ := List.mem_map.mp before
    obtain ⟨reached, below⟩ := List.Ico.mem.mp inRange
    intro isEmpty
    exact isLast.goesOn number reached below (by rw [isEmpty]; rfl)
  · unfold lastItems at atLast
    split at atLast <;> simp_all

/-- Nothing is left to ask for exactly when the last page was yielded. -/
theorem isExhausted_iff
    (isLast : LastPage replies first last)
    (taken : count ≤ (itemsUpTo replies first last).length) :
    IsExhausted first ((itemsUpTo replies first last).take count) ↔
      last < first + count := by
  have inRange := isLast.inRange
  have reached := isLast.reached
  unfold IsExhausted
  rw [List.length_take_of_le taken]
  constructor
  · rintro (⟨error, member⟩ | isGreatest)
    · refine Nat.lt_of_not_le fun within => ?_
      exact goesOn_of_mem_take isLast within member trivial
    · omega
  · intro beyond
    have length := length_itemsUpTo replies first last
    have atMostOne := lastItems_length_le (pageAt replies first last)
    rw [List.take_of_length_le (by omega)]
    rcases isLast.ends with ends | isGreatest
    · left
      cases item : pageAt replies first last with
      | error error =>
          exact ⟨error, by simp [itemsUpTo, item, lastItems]⟩
      | ok statuses =>
          rw [item] at ends length
          have isEmpty : statuses = [] := ends
          subst isEmpty
          simp only [lastItems, List.length_nil] at length
          omega
    · right
      omega

end Items

/--
What asking for one more item does, once `count` items were taken and the end
was not seen. With nothing left to ask for the stream ends and sends nothing.
Otherwise one more page is asked for: the stream ends where it is empty, and
yields it where it is not.
-/
structure OneFurther
    (replies : List Reply)
    (first count : Nat)
    (taken further : Run Request Reply Taken) : Prop where
  exhausted :
    IsExhausted first taken.result.items →
      further.result = { items := taken.result.items, ended := true } ∧
        further.sent.map Dispatch.message = taken.sent.map Dispatch.message
  asks :
    ¬IsExhausted first taken.result.items →
      further.sent.map Dispatch.message =
        taken.sent.map Dispatch.message ++ [listingRequest (first + count)]
  ends :
    ¬IsExhausted first taken.result.items →
      pageAt replies first (first + count) = .ok [] →
        further.result = { items := taken.result.items, ended := true }
  yields :
    ¬IsExhausted first taken.result.items →
      pageAt replies first (first + count) ≠ .ok [] →
        further.result = {
          items := taken.result.items ++ [pageAt replies first (first + count)]
          ended := false
        }

theorem oneFurther
    {page : PageNumber}
    {session : Session Reply}
    {count last : Nat}
    (isLast : LastPage session.replies page.number last)
    (notEnded :
      count ≤ (itemsUpTo session.replies page.number last).length) :
    OneFurther session.replies page.number count
      (take Scripted.transport count (start page) session)
      (take Scripted.transport (count + 1) (start page) session) := by
  obtain ⟨result, requests⟩ := take_of_lastPage count isLast
  obtain ⟨furtherResult, furtherRequests⟩ := take_of_lastPage (count + 1) isLast
  have exhausted :
      IsExhausted page.number
          (take Scripted.transport count (start page) session).result.items ↔
        last < page.number + count := by
    rw [result]
    exact isExhausted_iff isLast notEnded
  rw [← List.map_take] at requests furtherRequests
  rcases Nat.lt_or_ge last (page.number + count) with beyond | within
  · have whole := length_itemsUpTo session.replies page.number last
    have atMostOne :=
      lastItems_length_le (pageAt session.replies page.number last)
    have reached := isLast.reached
    refine {
      exhausted := fun _ => ⟨?_, ?_⟩
      asks := fun left => (left (exhausted.mpr beyond)).elim
      ends := fun left => (left (exhausted.mpr beyond)).elim
      yields := fun left => (left (exhausted.mpr beyond)).elim
    }
    · rw [result, furtherResult, List.take_of_length_le (by omega),
        List.take_of_length_le (by omega)]
      simp
      omega
    · rw [requests, furtherRequests, List.take_of_length_le (by simp; omega),
        List.take_of_length_le (by simp; omega)]
  · have ended_iff := length_itemsUpTo_lt_iff isLast within
    rw [take_Ico (Nat.le_succ_of_le within)] at requests
    rw [take_Ico (Nat.succ_le_succ within), ← Nat.add_assoc,
      List.Ico.succ_top (Nat.le_add_right _ _)] at furtherRequests
    rw [itemsUpTo_take_succ isLast within] at furtherResult
    refine {
      exhausted :=
        fun nothing => (Nat.not_lt.mpr within (exhausted.mp nothing)).elim
      asks := fun _ => ?_
      ends := fun _ isEmpty => ?_
      yields := fun _ notEmpty => ?_
    }
    · rw [requests, furtherRequests, List.map_append, List.map_singleton]
    · rw [result, furtherResult, isEmpty]
      simp [lastItems, ended_iff.mpr isEmpty]
    · rw [result, furtherResult, lastItems_of_ne notEmpty]
      simp [ended_iff, notEmpty]

/--
The stream of pages is lazy, from whichever page it starts and whatever comes of
the requests. However many items are taken, they are the first ones of the whole
stream, and none is an empty page. As long as the end was not seen, one request
was sent for every item, for one page after another from the first, and none
ahead of the consumer; `OneFurther` says what the next item costs.
-/
theorem take_is_lazy
    (page : PageNumber)
    (replies : List Reply)
    (now count : Nat) :
    let session : Session Reply := { replies := replies, now := now }
    let taken := take Scripted.transport count (start page) session
    let drained := drain Scripted.transport (start page) session
    drained.result.ended = true ∧
      taken.result.items = drained.result.items.take count ∧
      (taken.result.ended = true ↔ drained.result.items.length < count) ∧
      (∀ item ∈ taken.result.items, item ≠ .ok []) ∧
      (taken.result.ended = false →
        taken.result.items.length = count ∧
          page.number + count ≤ PageNumber.greatest + 1 ∧
          taken.sent.map Dispatch.message =
            (List.Ico page.number (page.number + count)).map listingRequest ∧
          OneFurther replies page.number count taken
            (take Scripted.transport (count + 1) (start page) session)) := by
  intro session taken drained
  obtain ⟨last, isLast⟩ := LastPage.exists_of_start page replies
  have length := length_itemsUpTo replies page.number last
  have atMostOne := lastItems_length_le (pageAt replies page.number last)
  have reached := isLast.reached
  have inRange := isLast.inRange
  have result : taken.result = _ := (take_of_lastPage count isLast).1
  have requests : taken.sent.map Dispatch.message = _ :=
    (take_of_lastPage count isLast).2
  have allItems :
      drained.result =
        { items := itemsUpTo replies page.number last, ended := true } := by
    have withinScript := isLast.le_length
    have enough :
        (itemsUpTo replies page.number last).length < replies.length + 2 := by
          omega
    refine (take_of_lastPage (replies.length + 2) isLast).1.trans ?_
    simp [session, enough, List.take_of_length_le (Nat.le_of_lt enough)]
  rw [allItems, result]
  refine ⟨rfl, rfl, by simp [session], ?_, ?_⟩
  · intro item member
    exact ne_empty_of_mem_itemsUpTo isLast (List.mem_of_mem_take member)
  · intro notEnded
    have notEnded : count ≤ (itemsUpTo replies page.number last).length := by
      simpa [session] using notEnded
    refine ⟨List.length_take_of_le notEnded, by omega, ?_,
      @oneFurther page session count last isLast notEnded⟩
    rw [requests, ← List.map_take, take_Ico (by omega)]

end PageStream

end WorkflowQueue.Statuses
