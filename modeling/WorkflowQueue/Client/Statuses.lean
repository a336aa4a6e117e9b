import WorkflowQueue.Client.Submission

namespace WorkflowQueue.Statuses

/-!
# Reading statuses and requesting changes

Nothing is kept between calls: every call asks the queue again. The listing is
read page by page, strictly one after another, until a page is empty; it is
available at once or as a stream whose next page is not requested before the
one before it was taken.
-/

/-- The request for one execution. -/
def statusRequest
    (executionId : String) :
    Request :=
  (Request.get Submission.queuePath).withSegment executionId

/-- The request for one page of the listing. -/
def pageRequest
    (page : PageNumber) :
    Request :=
  (Request.get Submission.queuePath).withQuery "page" page.text

/-- The body that asks for a change of state. -/
def changeBody
    (executionId : String)
    (action : StatusAction) :
    Json :=
  .object [
    ("execution_id", .string executionId),
    ("status", Wire.toJson action)
  ]

/-- The request for a change of state. -/
def changeRequest
    (executionId : String)
    (action : StatusAction) :
    Request :=
  Request.patch Submission.queuePath (changeBody executionId action)

/-- One execution with the records of its actions. -/
def get
    (transport : Transport Message Response)
    (executionId : String)
    (session : Session Response) :
    Run Message Response (Except QueueError WorkflowStatus) :=
  (transport.fetch (statusRequest executionId) session).after
    [.fetchingStatus executionId]

/-- One page of the listing. A page past the end is empty. -/
def getPage
    (transport : Transport Message Response)
    (page : PageNumber)
    (session : Session Response) :
    Run Message Response (Except QueueError (List WorkflowStatus)) :=
  (transport.fetch (pageRequest page) session).report fun
    | .ok statuses => [.fetchedPage page statuses.length]
    | .error _ => []

/-- Ask for a change of state. The body of the answer is ignored. -/
def act
    (transport : Transport Message Response)
    (executionId : String)
    (action : StatusAction)
    (session : Session Response) :
    Run Message Response (Except QueueError Unit) :=
  ((transport.exchange (changeRequest executionId action) session).map
      fun outcome => outcome.map fun _ => ()).report fun
    | .ok _ => [.changeRequested executionId action]
    | .error _ => []

/-- A page that was read has used up one reply. -/
theorem getPage_replies_length
    (transport : Transport Message Response)
    (page : PageNumber)
    (session : Session Response)
    {statuses : List WorkflowStatus}
    (succeeded : (getPage transport page session).result = .ok statuses) :
    (getPage transport page session).session.replies.length + 1 =
      session.replies.length :=
  Transport.fetch_replies_length transport (pageRequest page) session succeeded

/-- A status that was read has used up one reply. -/
theorem get_replies_length
    (transport : Transport Message Response)
    (executionId : String)
    (session : Session Response)
    {status : WorkflowStatus}
    (succeeded : (get transport executionId session).result = .ok status) :
    (get transport executionId session).session.replies.length + 1 =
      session.replies.length :=
  Transport.fetch_replies_length transport (statusRequest executionId)
    session succeeded

/-! ## All pages at once -/

/-- The end of a successful walk over the pages. -/
def allRead
    (pages : UInt32)
    (gathered : List WorkflowStatus)
    (run : Run Message Response α) :
    Run Message Response (Except QueueError (List WorkflowStatus)) :=
  (run.map fun _ => .ok gathered).report fun _ =>
    [.aggregated pages gathered.length]

/--
The walk from a page on, after `pages` pages with the statuses `gathered`. A
page that cannot be read ends the walk with its error.
-/
def allFrom
    (transport : Transport Message Response)
    (page : PageNumber)
    (pages : UInt32)
    (gathered : List WorkflowStatus)
    (session : Session Response) :
    Run Message Response (Except QueueError (List WorkflowStatus)) :=
  let run := getPage transport page session
  match _ : run.result with
  | .error error => run.map fun _ => .error error
  | .ok [] => allRead pages gathered run
  | .ok (first :: rest) =>
      let pages := pages + 1
      let gathered := gathered ++ first :: rest
      match page.next? with
      | none => allRead pages gathered run
      | some next =>
          run.followedBy (allFrom transport next pages gathered run.session)
termination_by session.replies.length
decreasing_by
  have used := getPage_replies_length transport page session (by assumption)
  omega

/--
All statuses in page order, or the error of the first page that cannot be read.
-/
def all
    (transport : Transport Message Response)
    (session : Session Response) :
    Run Message Response (Except QueueError (List WorkflowStatus)) :=
  allFrom transport PageNumber.first 0 [] session

/-! ## Pages one by one -/

/-- What a stream of pages yields. -/
abbrev StreamItem := Except QueueError (List WorkflowStatus)

/--
A stream of pages: the page that is requested next, unless the stream has ended.
-/
structure PageStream where
  next : Option PageNumber
  deriving DecidableEq

namespace PageStream

/-- The stream from a page on. -/
def start
    (page : PageNumber) :
    PageStream where
  next := some page

/-- The stream that has ended. -/
def ended : PageStream where
  next := none

/--
Take the next item. The stream ends before an empty page, after an error, and
after the last page that has a number.
-/
def step
    (transport : Transport Message Response)
    (stream : PageStream)
    (session : Session Response) :
    Run Message Response (Option (StreamItem × PageStream)) :=
  match stream.next with
  | none => Run.idle none session
  | some page =>
      (getPage transport page session).map fun
        | .error error => some (.error error, ended)
        | .ok [] => none
        | .ok (first :: rest) =>
            some (.ok (first :: rest), { next := page.next? })

/-- The items taken from a stream, and whether its end was seen. -/
structure Taken where
  items : List StreamItem
  ended : Bool

/-- Take at most `limit` items. -/
def take
    (transport : Transport Message Response) :
    Nat →
    PageStream →
    Session Response →
    Run Message Response Taken
  | 0, _, session => Run.idle { items := [], ended := false } session
  | limit + 1, stream, session =>
      let run := stream.step transport session
      match run.result with
      | none => run.map fun _ => { items := [], ended := true }
      | some (item, following) =>
          run.followedBy <|
            (take transport limit following run.session).map fun taken =>
              { taken with items := item :: taken.items }

/--
Take items until the end. Every item but the last uses up a reply, and the item
after the last is the end.
-/
def drain
    (transport : Transport Message Response)
    (stream : PageStream)
    (session : Session Response) :
    Run Message Response Taken :=
  take transport (session.replies.length + 2) stream session

end PageStream

end WorkflowQueue.Statuses
