import WorkflowQueue.Proofs.Listing
import WorkflowQueue.Proofs.Records.Reprinting

namespace WorkflowQueue

/-!
# A listing that is served in pages

A server holds a list of statuses and answers the request for each page with the
text of that page. Whatever the size of the pages and the form in which each is
sent, the walk over the listing gives the list back. `Statuses.all_of_serves`
also says which requests that takes.
-/

/-! ## Servers -/

namespace Server

/--
A transport to a server whose answer depends on the request alone. The session
tells only how many requests the server will answer.
-/
def transport
    (answer : Request → Reply) :
    Transport Request Unit where
  announce _ := []
  prepare := .ok
  answer request _ := answer request
  unanswered _ := Scripted.exhausted

/-- A request is sent as it is while the server answers. -/
theorem exchange_eq
    (answer : Request → Reply)
    (request : Request)
    {session : Session Unit}
    (answered : 0 < session.replies.length) :
    (transport answer).exchange request session = {
      result := (answer request).outcome
      sent := [{ instant := session.now, message := request }]
      events := []
      session := {
        replies := session.replies.tail
        now := session.now + (answer request).delay
      }
    } := by
  rcases session with ⟨replies, now⟩
  cases replies with
  | nil =>
      cases answered
  | cons head rest =>
      rfl

end Server

namespace Statuses

section Page

variable
  (answer : Request → Reply)
  (page : PageNumber)
  {session : Session Unit}
  (answered : 0 < session.replies.length)

include answered

theorem getPage_server_result :
    (getPage (Server.transport answer) page session).result =
      Transport.decodeReply (answer (listingRequest page.number)).outcome := by
  simp [getPage, Transport.fetch, Server.exchange_eq answer _ answered,
    pageRequest_eq]

theorem getPage_server_sent :
    (getPage (Server.transport answer) page session).sent.map Dispatch.message =
      [listingRequest page.number] := by
  simp [getPage, Transport.fetch, Server.exchange_eq answer _ answered,
    pageRequest_eq]

theorem getPage_server_replies :
    (getPage (Server.transport answer) page session).session.replies =
      session.replies.tail := by
  simp [getPage, Transport.fetch, Server.exchange_eq answer _ answered]

end Page

/-! ## Pages -/

/-- The statuses on the page of a number, none past the end of the list. -/
def chunk
    (statuses : List WorkflowStatus)
    (size number : Nat) :
    List WorkflowStatus :=
  (statuses.drop ((number - 1) * size)).take size

/-- The number of pages that are not empty. -/
def pageCount
    (statuses : List WorkflowStatus)
    (size : Nat) :
    Nat :=
  (statuses.length + size - 1) / size

/-- The form in which a page is sent. -/
structure PageForm where
  layout : Json.Layout
  isWrapped : Bool

namespace PageForm

/--
The value that a page is sent as: bare, or as the only member of an object.
-/
def value
    (form : PageForm)
    (statuses : List WorkflowStatus) :
    Json :=
  if form.isWrapped then
    .object [("data", Wire.toJson statuses)] else Wire.toJson statuses

/-- The text that a page is sent as. -/
def body
    (form : PageForm)
    (statuses : List WorkflowStatus) :
    String :=
  String.ofList (Json.write form.layout 0 (form.value statuses))

end PageForm

/-- A status that can be read from a body, alone or in a list. -/
def Readable
    (status : WorkflowStatus) :
    Prop :=
  (∃ body, decode body = .ok status) ∨
    ∃ body, ∃ statuses : List WorkflowStatus, decode body = .ok statuses ∧
      status ∈ statuses

/-- A status that can be read is read again from the value it is sent as. -/
theorem Readable.isRead
    {status : WorkflowStatus}
    (readable : Readable status) :
    Wire.ofJson (Wire.toJson status).ordered = .ok status := by
  have reprints : Reprints WorkflowStatus 3 :=
    RecordKind.workflowStatus.reprints
  rcases readable with
    ⟨body, isDecoded⟩ | ⟨body, statuses, areDecoded, isListed⟩
  · obtain ⟨value, isParsed, isRead⟩ := decode_eq_ok_iff.mp isDecoded
    have stored := (Json.stored_of_parse isParsed).unwrapEnvelope
    exact (reprints stored.isOrdered isRead).isRead
  · obtain ⟨value, isParsed, isRead⟩ := decode_eq_ok_iff.mp areDecoded
    have stored := (Json.stored_of_parse isParsed).unwrapEnvelope
    have listRead := (reprints_list reprints stored.isOrdered isRead).isRead
    exact ofJson_ordered_list_iff.mp listRead status isListed

namespace PageForm

variable
  (form : PageForm)
  (statuses : List WorkflowStatus)

/-- Without its wrapper a page is a list, whatever its form. -/
theorem unwrapEnvelope_value :
    unwrapEnvelope (form.value statuses).ordered =
      (Wire.toJson statuses).ordered := by
  unfold value
  split
  · rw [Json.ordered_object]
    rfl
  · rw [toJson_list, Json.ordered_array]
    rfl

theorem isFloatFree_value
    {statuses : List WorkflowStatus}
    (floatFree : ∀ status ∈ statuses, (Wire.toJson status).isFloatFree = true) :
    (form.value statuses).isFloatFree = true := by
  have listed : (Wire.toJson statuses).isFloatFree = true := by
    rw [toJson_list, Json.isFloatFree_array_iff, List.forall_mem_map]
    exact floatFree
  unfold value
  split
  · rw [Json.isFloatFree_object_iff]
    simpa using listed
  · exact listed

/-- A page is read from its text, in whatever form it is sent. -/
theorem decode_body
    {statuses : List WorkflowStatus}
    (readable : ∀ status ∈ statuses, Readable status)
    (floatFree : ∀ status ∈ statuses, (Wire.toJson status).isFloatFree = true)
    (nested : (form.value statuses).depth ≤ Json.nestingLimit) :
    decode (form.body statuses) = .ok statuses := by
  have isParsed :
      Json.parse (form.body statuses) = .ok (form.value statuses).ordered := by
    simpa [body] using
      Json.parse_write form.layout (form.isFloatFree_value floatFree) nested
        (List.forall_mem_nil _)
  refine decode_eq_ok_iff.mpr ⟨_, isParsed, ?_⟩
  rw [form.unwrapEnvelope_value, ofJson_ordered_list_iff]
  exact fun status isListed => (readable status isListed).isRead

end PageForm

/-! ## Counting pages -/

section Counting

variable
  {statuses : List WorkflowStatus}
  {size number : Nat}
  (positive : 0 < size)

/-- A page and the statuses after it are the statuses from the page on. -/
theorem chunk_append_drop
    (statuses : List WorkflowStatus)
    (size : Nat)
    (counted : 1 ≤ number) :
    chunk statuses size number ++ statuses.drop (number * size) =
      statuses.drop ((number - 1) * size) := by
  obtain ⟨before, rfl⟩ := Nat.exists_eq_add_of_le' counted
  rw [chunk, Nat.add_sub_cancel, Nat.succ_mul, ← List.drop_drop,
    List.take_append_drop]

include positive

theorem chunk_eq_nil_iff :
    chunk statuses size number = [] ↔
      statuses.length ≤ (number - 1) * size := by
  rw [chunk, List.take_eq_nil_iff, List.drop_eq_nil_iff]
  omega

/-- The pages that are not empty are the first ones, as many as there are. -/
theorem le_pageCount_iff
    (counted : 1 ≤ number) :
    number ≤ pageCount statuses size ↔
      (number - 1) * size < statuses.length := by
  obtain ⟨before, rfl⟩ := Nat.exists_eq_add_of_le' counted
  rw [pageCount, Nat.le_div_iff_mul_le positive,
    Nat.add_sub_cancel, Nat.succ_mul]
  omega

/-- After the last page that is not empty there are no statuses. -/
theorem length_le_of_pageCount_le
    (last : pageCount statuses size ≤ number) :
    statuses.length ≤ number * size := by
  have noFurther : ¬ number + 1 ≤ pageCount statuses size := by omega
  rwa [le_pageCount_iff positive (Nat.le_add_left 1 number),
    Nat.add_sub_cancel, Nat.not_lt]
    at noFurther

theorem chunk_eq_nil_iff_pageCount_lt
    (counted : 1 ≤ number) :
    chunk statuses size number = [] ↔ pageCount statuses size < number := by
  rw [chunk_eq_nil_iff positive, ← Nat.not_le,
    le_pageCount_iff positive counted, Nat.not_lt]

end Counting

/-! ## The walk over a served listing -/

/--
A server that answers the request for each page with the text of that page.
-/
structure Serves
    (answer : Request → Reply)
    (statuses : List WorkflowStatus)
    (size : Nat)
    (forms : Nat → PageForm) :
    Prop where
  answers : ∀ number, 1 ≤ number →
    (answer (listingRequest number)).outcome =
      .ok ((forms number).body (chunk statuses size number))
  nested : ∀ number,
    ((forms number).value (chunk statuses size number)).depth ≤
      Json.nestingLimit

/-- Pages nest shallowly enough when their statuses do. -/
theorem nested_of_statuses
    {statuses : List WorkflowStatus}
    (shallow :
      ∀ status ∈ statuses, (Wire.toJson status).depth + 2 ≤ Json.nestingLimit)
    (form : PageForm)
    (size number : Nat) :
    (form.value (chunk statuses size number)).depth ≤ Json.nestingLimit := by
  have listed : (Wire.toJson (chunk statuses size number)).depth ≤ 125 + 1 := by
    rw [toJson_list, Json.depth_array_le_succ_iff, List.forall_mem_map]
    intro status onPage
    exact Nat.le_of_add_le_add_right
      (shallow status (List.mem_of_mem_drop (List.mem_of_mem_take onPage)))
  unfold PageForm.value
  split
  · exact Json.depth_object_le_succ_iff.mpr (by simpa using listed)
  · exact Nat.le_succ_of_le listed

/-- The number of the page that a request asks for. -/
def pageAsked
    (request : Request) :
    Nat :=
  Nat.ofDigitChars 10 ((request.queryParam? "page").getD "").toList 0

/-- The server that holds a list of statuses. -/
def listing
    (statuses : List WorkflowStatus)
    (size : Nat)
    (forms : Nat → PageForm)
    (request : Request) :
    Reply where
  delay := 0
  outcome :=
    .ok ((forms (pageAsked request)).body
      (chunk statuses size (pageAsked request)))

theorem serves_listing
    {statuses : List WorkflowStatus}
    (shallow :
      ∀ status ∈ statuses, (Wire.toJson status).depth + 2 ≤ Json.nestingLimit)
    (size : Nat)
    (forms : Nat → PageForm) :
    Serves (listing statuses size forms) statuses size forms where
  answers number _ := by
    have asked : pageAsked (listingRequest number) = number := by
      simp [pageAsked, listingRequest, Request.queryParam?]
    rw [listing, asked]
  nested number := nested_of_statuses shallow (forms number) size number

/--
The page that is requested last: the first empty one, or else the last that has
a number.
-/
def lastRequested
    (statuses : List WorkflowStatus)
    (size : Nat) :
    Nat :=
  min (pageCount statuses size + 1) PageNumber.greatest

/-- Before the last request is answered there is a request to answer. -/
theorem answered_of_reached
    {statuses : List WorkflowStatus}
    {size count : Nat}
    {page : PageNumber}
    (reached : page.number ≤ pageCount statuses size + 1)
    (answered : lastRequested statuses size < page.number + count) :
    page.number ≤ lastRequested statuses size ∧ 0 < count := by
  have within : page.number ≤ lastRequested statuses size :=
    Nat.le_min.mpr ⟨reached, page.number_le_greatest⟩
  exact ⟨within, by omega⟩

section Walk

variable
  {answer : Request → Reply}
  {statuses : List WorkflowStatus}
  {size : Nat}
  {forms : Nat → PageForm}
  (serves : Serves answer statuses size forms)
  (readable : ∀ status ∈ statuses, Readable status)
  (floatFree : ∀ status ∈ statuses, (Wire.toJson status).isFloatFree = true)

include serves readable floatFree

/-- Every page is read as the statuses on it. -/
theorem getPage_of_serves
    (page : PageNumber)
    {session : Session Unit}
    (answered : 0 < session.replies.length) :
    (getPage (Server.transport answer) page session).result =
      .ok (chunk statuses size page.number) := by
  have isListed {status} (onPage : status ∈ chunk statuses size page.number) :
      status ∈ statuses :=
    List.mem_of_mem_drop (List.mem_of_mem_take onPage)
  have isDecoded :=
    (forms page.number).decode_body
      (fun status onPage => readable status (isListed onPage))
      (fun status onPage => floatFree status (isListed onPage))
      (serves.nested page.number)
  rw [getPage_server_result answer page answered,
    serves.answers page.number page.inRange.1, Transport.decodeReply, isDecoded]
  rfl

/--
The walk from a page on gives what was gathered and the statuses from that page
on. The induction follows the walk, which ends at an empty page, and that is the
page after all statuses, or at the last page that has a number, which then holds
the last of them.
-/
theorem allFrom_of_serves
    (positive : 0 < size)
    (few : pageCount statuses size ≤ PageNumber.greatest)
    (page : PageNumber)
    (pages : UInt32)
    (gathered : List WorkflowStatus)
    (session : Session Unit)
    (reached : page.number ≤ pageCount statuses size + 1)
    (answered :
      lastRequested statuses size < page.number + session.replies.length) :
    let run := allFrom (Server.transport answer) page pages gathered session
    run.result = .ok (gathered ++ statuses.drop ((page.number - 1) * size)) ∧
      run.sent.map Dispatch.message =
        (List.Ico page.number (lastRequested statuses size + 1)).map
          listingRequest := by
  induction page, pages, gathered, session using
    allFrom.induct (Server.transport answer) with
  | case1 page pages gathered session run error failed =>
      obtain ⟨within, goesOn⟩ := answered_of_reached reached answered
      have isRead := getPage_of_serves serves readable floatFree page goesOn
      rw [failed] at isRead
      cases isRead
  | case2 page pages gathered session run empty =>
      obtain ⟨within, goesOn⟩ := answered_of_reached reached answered
      have isRead := getPage_of_serves serves readable floatFree page goesOn
      have noneLeft : chunk statuses size page.number = [] :=
        (Except.ok.inj (empty.symm.trans isRead)).symm
      have pastEnd :=
        (chunk_eq_nil_iff_pageCount_lt positive page.inRange.1).mp noneLeft
      have isLast : lastRequested statuses size = page.number := by
        unfold lastRequested at *
        omega
      rw [allFrom_of_empty empty, isLast, List.Ico.succ_singleton,
        List.drop_eq_nil_of_le ((chunk_eq_nil_iff positive).mp noneLeft),
        List.append_nil]
      exact ⟨rfl, getPage_server_sent answer page goesOn⟩
  | case3 page pages gathered session run first rest succeeded noNext =>
      obtain ⟨within, goesOn⟩ := answered_of_reached reached answered
      have isRead := getPage_of_serves serves readable floatFree page goesOn
      have here : first :: rest = chunk statuses size page.number :=
        Except.ok.inj (succeeded.symm.trans isRead)
      have isGreatest := PageNumber.number_of_next?_eq_none noNext
      have isLast : lastRequested statuses size = page.number := by
        unfold lastRequested at *
        omega
      have noneLeft := length_le_of_pageCount_le positive (isGreatest ▸ few)
      rw [allFrom_of_last succeeded noNext, isLast, List.Ico.succ_singleton,
        ← chunk_append_drop statuses size page.inRange.1,
        List.drop_eq_nil_of_le noneLeft, List.append_nil, ← here]
      exact ⟨rfl, getPage_server_sent answer page goesOn⟩
  | case4 page pages gathered session run first rest succeeded pages' gathered'
      next follows inductionHypothesis =>
      obtain ⟨within, goesOn⟩ := answered_of_reached reached answered
      have isRead := getPage_of_serves serves readable floatFree page goesOn
      have here : first :: rest = chunk statuses size page.number :=
        Except.ok.inj (succeeded.symm.trans isRead)
      have isNext := PageNumber.number_of_next?_eq_some follows
      have notEmpty : ¬ pageCount statuses size < page.number := by
        rw [← chunk_eq_nil_iff_pageCount_lt positive page.inRange.1, ← here]
        exact List.cons_ne_nil first rest
      have left : run.session.replies.length = session.replies.length - 1 := by
        rw [getPage_server_replies answer page goesOn, List.length_tail]
      obtain ⟨result, requests⟩ := inductionHypothesis (by omega) (by omega)
      rw [allFrom_of_next succeeded follows]
      refine ⟨?_, ?_⟩
      · rw [Run.followedBy_result, result, isNext, Nat.add_sub_cancel,
          ← chunk_append_drop statuses size page.inRange.1, ← here,
          List.append_assoc]
      · rw [Run.followedBy_sent, List.map_append, requests, isNext,
          getPage_server_sent answer page goesOn,
          List.Ico.eq_cons (Nat.lt_succ_of_le within)]
        rfl

/--
A listing that is served in pages is read completely and in order, whatever the
size and the forms of its pages. It takes one request for every page that is not
empty and one for the empty page after them, which is left out when there is no
number for it.
-/
theorem all_of_serves
    (positive : 0 < size)
    (few : pageCount statuses size ≤ PageNumber.greatest)
    (session : Session Unit)
    (answered : lastRequested statuses size ≤ session.replies.length) :
    let run := all (Server.transport answer) session
    run.result = .ok statuses ∧
      run.sent.map Dispatch.message =
        (List.Ico 1 (lastRequested statuses size + 1)).map listingRequest ∧
      (pageCount statuses size < PageNumber.greatest →
        run.sent.length = pageCount statuses size + 1) := by
  have isFirst : PageNumber.first.number = 1 := rfl
  obtain ⟨result, requests⟩ :=
    allFrom_of_serves serves readable floatFree positive few PageNumber.first 0
      [] session (Nat.le_add_left 1 _) (by omega)
  rw [isFirst, Nat.sub_self, Nat.zero_mul, List.drop_zero, List.nil_append]
    at result
  refine ⟨result, requests, ?_⟩
  intro below
  have counted := congrArg List.length requests
  rw [List.length_map, List.length_map, List.Ico.length, isFirst,
    Nat.add_sub_cancel] at counted
  calc
    (allFrom (Server.transport answer) PageNumber.first 0 []
      session).sent.length
    _ = lastRequested statuses size := counted
    _ = pageCount statuses size + 1 := Nat.min_eq_left below

end Walk

/-- Three statuses in the short form, in unknown states. -/
def threeStatuses : String :=
  "[[\"a\",null,\"\\u00e9\",\"x\"],[\"b\",null,null,\"y\"],[\"c\",null,null,\"z\"]]"

theorem all_of_serves_two_pages :
    let forms := fun number : Nat => PageForm.mk .pretty (number == 2)
    ∃ statuses : List WorkflowStatus,
      decode threeStatuses = .ok statuses ∧
      (∀ status ∈ statuses, Readable status) ∧
      (∀ status ∈ statuses, (Wire.toJson status).isFloatFree = true) ∧
      Serves (listing statuses 2 forms) statuses 2 forms ∧
      let run := all (Server.transport (listing statuses 2 forms))
        { replies := [(), (), ()], now := 0 }
      run.result = .ok statuses ∧
        run.sent.map Dispatch.message = [1, 2, 3].map listingRequest := by
  intro forms
  obtain ⟨statuses, areDecoded, evaluated⟩ :
      ∃ statuses : List WorkflowStatus, decode threeStatuses = .ok statuses ∧
        (statuses.length == 3 && statuses.all fun status =>
          (Wire.toJson status).isFloatFree && (Wire.toJson status).depth == 2) =
            true :=
    exists_decoded_of_evaluated (by decide +kernel)
  simp only [Bool.and_eq_true, beq_iff_eq, List.all_eq_true] at evaluated
  obtain ⟨isThree, each⟩ := evaluated
  have readable : ∀ status ∈ statuses, Readable status := fun status isListed =>
    Or.inr ⟨threeStatuses, statuses, areDecoded, isListed⟩
  have floatFree :
      ∀ status ∈ statuses, (Wire.toJson status).isFloatFree = true :=
    fun status isListed => (each status isListed).1
  have shallow :
      ∀ status ∈ statuses, (Wire.toJson status).depth + 2 ≤
        Json.nestingLimit := by
    intro status isListed
    rw [(each status isListed).2]
    decide
  have twoPages : pageCount statuses 2 = 2 := by
    rw [pageCount, isThree]
  have serves := serves_listing shallow 2 forms
  obtain ⟨result, requests, -⟩ :=
    all_of_serves serves readable floatFree (by decide)
      (by rw [twoPages]; decide) { replies := [(), (), ()], now := 0 }
      (by rw [lastRequested, twoPages]; decide)
  have asked : List.Ico 1 (lastRequested statuses 2 + 1) = [1, 2, 3] := by
    rw [lastRequested, twoPages]
    decide
  exact ⟨statuses, areDecoded, readable, floatFree, serves, result,
    asked ▸ requests⟩

end Statuses

end WorkflowQueue
