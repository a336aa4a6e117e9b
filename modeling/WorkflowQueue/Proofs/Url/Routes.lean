import Mathlib.Tactic.ByContra
import WorkflowQueue.Http.Endpoint
import WorkflowQueue.Proofs.Script
import WorkflowQueue.Proofs.Url.Escapes

namespace WorkflowQueue

/-!
# The route of an execution

An execution is asked for at a segment of its own below the root of the queue.
Its identity stays within that segment unless it is a lone dot or two, or holds
a tab or a line break: the former are left out of paths, the latter are dropped
from them. `Http.Endpoint.statusTarget_iff` says so for every root and every
identity.
-/

namespace Url

/-- An identity that a path can hold as it is. -/
structure IsPlain
    (id : String) :
    Prop where
  notHere : id ≠ "."
  notAbove : id ≠ ".."
  nothingDropped : ∀ c ∈ id.toList, isDropped c = false

/-- Whether an identity is plain is seen from its characters one by one. -/
theorem isPlain_iff
    {id : String} :
    IsPlain id ↔
      id ≠ "." ∧ id ≠ ".." ∧ id.toList.all (fun c => !isDropped c) = true := by
  simp only [List.all_eq_true, Bool.not_eq_true']
  exact ⟨fun isPlain => ⟨isPlain.notHere, isPlain.notAbove,
    isPlain.nothingDropped⟩, fun ⟨notHere, notAbove, nothingDropped⟩ =>
      ⟨notHere, notAbove, nothingDropped⟩⟩

instance
    (id : String) :
    Decidable (IsPlain id) :=
  decidable_of_iff _ isPlain_iff.symm

/-- A segment, free of separators, that stands for an identity. -/
structure IsSegmentOf
    (id : String)
    (segment : List Char) :
    Prop where
  decoded : decode segment = Text.utf8 id.toList
  undivided : ∀ c ∈ segment, c ≠ '/' ∧ c ≠ '?' ∧ c ≠ '#'

theorem segment_escapesMark :
    Component.segment.EscapesMark :=
  rfl

theorem isSegmentOf_encode
    (id : String) :
    IsSegmentOf id (Component.segment.encode id.toList) where
  decoded := decode_encode segment_escapesMark id.toList
  undivided _ := encode_segment_ne_separator

/-! ## Paths -/

/--
The segments below which a segment is added. A path of one empty segment has
none.
-/
def base
    (path : List (List Char)) :
    List (List Char) :=
  if path = [[]] then [] else path

/-- The segments of a root. One empty segment at its end does not count. -/
def rootSegments
    (path : List (List Char)) :
    List (List Char) :=
  base (openPath path)

theorem base_closePath
    (path : List (List Char)) :
    base (closePath path) = base path := by
  cases path <;> rfl

theorem encodeSegment_of_plain
    {id : String}
    (isPlain : IsPlain id) :
    encodeSegment id = Component.segment.encode id.toList := by
  have allKept : id.toList.filter (fun c => !isDropped c) = id.toList :=
    List.filter_eq_self.mpr fun c member => by
      rw [isPlain.nothingDropped c member]; rfl
  rw [encodeSegment, allKept]

/--
The escaped form of an identity is that of a name only if the identity is the
name.
-/
theorem encode_eq_iff
    {id : String}
    (name : String)
    (unescaped : Component.segment.encode name.toList = name.toList) :
    Component.segment.encode id.toList = name.toList ↔ id = name := by
  constructor
  · intro same
    rw [← unescaped] at same
    exact String.toList_injective (encode_injective segment_escapesMark same)
  · rintro rfl
    exact unescaped

/-- A plain identity is added as one segment. -/
theorem addSegment_of_plain
    {id : String}
    (isPlain : IsPlain id)
    (path : List (List Char)) :
    addSegment path id = base path ++ [Component.segment.encode id.toList] := by
  have notAbove : Component.segment.encode id.toList ≠ ['.', '.'] := fun same =>
    isPlain.notAbove ((encode_eq_iff ".." (by decide)).mp same)
  have notHere : Component.segment.encode id.toList ≠ ['.'] := fun same =>
    isPlain.notHere ((encode_eq_iff "." (by decide)).mp same)
  rw [addSegment, if_neg (not_or.mpr ⟨isPlain.notHere, isPlain.notAbove⟩),
    encodeSegment_of_plain isPlain]
  simp only [if_neg notAbove, if_neg notHere]
  rfl

/-! ## Identities that a path cannot hold -/

/-- A text that loses characters becomes another one. -/
theorem filter_ne_of_dropped
    {text : List Char}
    (dropped : ∃ c ∈ text, isDropped c = true) :
    text.filter (fun c => !isDropped c) ≠ text := by
  obtain ⟨c, member, isDropped⟩ := dropped
  intro same
  have kept := List.filter_eq_self.mp same c member
  rw [isDropped] at kept
  cases kept

/-- An identity that is not plain is a lone dot or two, or loses characters. -/
theorem exists_dropped_of_not_plain
    {id : String}
    (notPlain : ¬ IsPlain id)
    (noDots : ¬ (id = "." ∨ id = "..")) :
    ∃ c ∈ id.toList, isDropped c = true := by
  by_contra noneDropped
  refine notPlain ⟨fun here => noDots (Or.inl here),
    fun above => noDots (Or.inr above), ?_⟩
  intro c member
  exact Bool.eq_false_iff.mpr fun dropped => noneDropped ⟨c, member, dropped⟩

/--
An identity that is not plain leaves no segment behind that stands for it: the
path ends before it, in an empty segment, or in a segment for what is left of
it.
-/
theorem addSegment_of_not_plain
    {id : String}
    (notPlain : ¬ IsPlain id)
    {above : List (List Char)}
    {last segment : List Char}
    (notEmpty : last ≠ [])
    (notDrive : isDriveLetter last = false)
    (added : addSegment (above ++ [last]) id = above ++ [last, segment]) :
    decode segment ≠ Text.utf8 id.toList := by
  have shape :
      above ++ [last, segment] = (above ++ [last]) ++ [segment] := by simp
  rw [shape, addSegment] at added
  split at added
  case isTrue => simp at added
  case isFalse noDots =>
    have dropped := exists_dropped_of_not_plain notPlain noDots
    have isBase : above ++ [last] ≠ [[]] := by
      cases above <;> simp [notEmpty]
    simp only [if_neg isBase] at added
    split at added
    · have above : placeAbove (above ++ [last]) = above := by
        simp [placeAbove, notDrive]
      rw [above] at added
      simpa using congrArg List.length added
    split at added
    · have isEmpty : segment = [] := by simpa using added.symm
      obtain ⟨c, member, -⟩ := dropped
      intro stands
      rw [isEmpty] at stands
      have noText : id.toList = [] := Text.utf8_injective stands.symm
      simp [noText] at member
    · have isLeft : segment = encodeSegment id := by simpa using added.symm
      rw [isLeft, encodeSegment, decode_encode segment_escapesMark]
      exact fun same => filter_ne_of_dropped dropped (Text.utf8_injective same)

/-! ## Addresses with parameters -/

theorem withParameters_path
    (url : Url)
    (parameters : List (String × String)) :
    (url.withParameters parameters).path = url.path := by
  unfold withParameters
  split <;> rfl

/-- The written query of a URL, if it has one. -/
def queryText
    (url : Url) :
    List Char :=
  match url.query with
  | none => []
  | some query => '?' :: query

theorem targetText_eq
    (url : Url) :
    url.targetText = pathText url.path ++ url.queryText := by
  unfold targetText queryText
  cases url.query <;> simp

theorem pathText_append
    (first second : List (List Char)) :
    pathText (first ++ second) = pathText first ++ pathText second :=
  List.flatMap_append

/-- A query does not begin like a segment. -/
theorem queryText_ne_segment
    (url : Url)
    (text : List Char) :
    url.queryText ≠ '/' :: text := by
  unfold queryText
  cases url.query <;> simp

end Url

namespace Http.Endpoint

open Url

variable
  (endpoint : Endpoint)

/-! ## Targets -/

/--
The target of a request: the path and the query that a server is asked for.
-/
def target
    (request : Request) :
    List Char :=
  (endpoint.addressOf request).targetText

theorem addressOf_path
    (request : Request) :
    (endpoint.addressOf request).path =
      (endpoint.urlFor request.segments).path := by
  unfold addressOf
  simp only
  split
  · exact withParameters_path _ _
  · exact withParameters_path _ _

theorem target_eq
    (request : Request) :
    endpoint.target request =
      pathText (endpoint.urlFor request.segments).path ++
        (endpoint.addressOf request).queryText := by
  rw [target, targetText_eq, addressOf_path]

/-- A request without parameters keeps the query of the root. -/
theorem addressOf_queryText
    {request : Request}
    (noQuery : request.query = []) :
    (endpoint.addressOf request).queryText = endpoint.root.queryText := by
  unfold addressOf
  rw [noQuery]
  simp only [withParameters, List.isEmpty_nil, if_pos]
  split
  · rfl
  · rfl

/-! ## Routes -/

/-- The path of a route: one segment below the root. -/
def routePath
    (route : List Char) :
    List (List Char) :=
  rootSegments endpoint.root.path ++ [route]

/-- The segment of executions. -/
def queueSegment : List Char :=
  ['w', 'o', 'r', 'k', 'f', 'l', 'o', 'w', 'q', 'u', 'e', 'u', 'e']

/-- The segment of playbooks. -/
def playbooksSegment : List Char :=
  ['p', 'l', 'a', 'y', 'b', 'o', 'o', 'k', 's']

theorem urlFor_route
    {route : String}
    {segment : List Char}
    (isPlain : IsPlain route)
    (unescaped : Component.segment.encode route.toList = segment) :
    (endpoint.urlFor [route]).path = endpoint.routePath segment := by
  unfold urlFor withSegments routePath rootSegments
  rw [List.foldl_cons, List.foldl_nil, addSegment_of_plain isPlain, unescaped,
    base_closePath]

theorem urlFor_queue :
    (endpoint.urlFor ["workflowqueue"]).path =
      endpoint.routePath queueSegment :=
  endpoint.urlFor_route (by decide) (by decide)

theorem urlFor_playbooks :
    (endpoint.urlFor ["playbooks"]).path =
      endpoint.routePath playbooksSegment :=
  endpoint.urlFor_route (by decide) (by decide)

/-- The segment of an execution is added to the route of executions. -/
theorem urlFor_status
    (id : String) :
    (endpoint.urlFor (Statuses.statusRequest id).segments).path =
      addSegment (endpoint.routePath queueSegment) id := by
  have segments :
      (Statuses.statusRequest id).segments = ["workflowqueue"] ++ [id] := by
    simp [Statuses.statusRequest, Request.get, Request.ofPath,
      Request.withSegment, Submission.splitPath_queuePath]
  rw [segments, ← urlFor_queue]
  unfold urlFor withSegments
  rw [List.foldl_append]
  rfl

/-! ## Executions -/

/--
An identity that is asked for at a segment of its own in the route of
executions.
-/
def KeepsRoute
    (id : String) :
    Prop :=
  ∃ segment,
    (endpoint.addressOf (Statuses.statusRequest id)).path =
        rootSegments endpoint.root.path ++ [queueSegment, segment] ∧
      IsSegmentOf id segment

theorem routePath_ne_root :
    endpoint.routePath queueSegment ≠ [[]] := by
  unfold routePath
  cases rootSegments endpoint.root.path <;> simp [queueSegment]

theorem path_of_plain
    {id : String}
    (isPlain : IsPlain id) :
    (endpoint.urlFor (Statuses.statusRequest id).segments).path =
      endpoint.routePath queueSegment ++
        [Component.segment.encode id.toList] := by
  rw [urlFor_status, addSegment_of_plain isPlain, base,
    if_neg endpoint.routePath_ne_root]

/-- The identities that keep to their segment are the plain ones. -/
theorem keepsRoute_iff
    {id : String} :
    endpoint.KeepsRoute id ↔ IsPlain id := by
  unfold KeepsRoute
  rw [addressOf_path]
  constructor
  · rintro ⟨segment, added, stands⟩
    by_contra notPlain
    rw [urlFor_status, routePath] at added
    exact addSegment_of_not_plain notPlain (by decide) (by decide) added
      stands.decoded
  · intro isPlain
    refine ⟨_, ?_, isSegmentOf_encode id⟩
    rw [path_of_plain endpoint isPlain, routePath, List.append_assoc]
    rfl

theorem target_of_plain
    {id : String}
    (isPlain : IsPlain id) :
    endpoint.target (Statuses.statusRequest id) =
      pathText (endpoint.routePath queueSegment) ++
        '/' :: (Component.segment.encode id.toList ++
          endpoint.root.queryText) := by
  have noQuery : (Statuses.statusRequest id).query = [] := rfl
  rw [target_eq, path_of_plain endpoint isPlain,
    addressOf_queryText endpoint noQuery, pathText_append, List.append_assoc]
  simp [pathText]

/-- Different plain identities are asked for at different targets. -/
theorem target_injective
    {id other : String}
    (isPlain : IsPlain id)
    (otherIsPlain : IsPlain other)
    (same : endpoint.target (Statuses.statusRequest id) =
      endpoint.target (Statuses.statusRequest other)) :
    id = other := by
  rw [target_of_plain endpoint isPlain,
    target_of_plain endpoint otherIsPlain] at same
  have sameTail := List.cons.inj (List.append_cancel_left same)
  have sameForm := List.append_cancel_right sameTail.2
  exact String.toList_injective (encode_injective segment_escapesMark sameForm)

/-! ## Other routes -/

/-- The requests of all operations but that for one execution. -/
inductive OtherRoute :
    Request →
    Prop where
  | listing (page : PageNumber) : OtherRoute (Statuses.pageRequest page)
  | submission (workflowId : String) :
      OtherRoute (Submission.request workflowId)
  | change (executionId : String) (action : StatusAction) :
      OtherRoute (Statuses.changeRequest executionId action)
  | catalog : OtherRoute Catalog.request

/--
The other operations are at the route of executions itself or at that of
playbooks.
-/
theorem OtherRoute.segments
    {request : Request}
    (other : OtherRoute request) :
    request.segments = ["workflowqueue"] ∨
      request.segments = ["playbooks"] := by
  cases other with
  | listing page =>
      exact Or.inl Submission.splitPath_queuePath
  | submission workflowId =>
      exact Or.inl Submission.splitPath_queuePath
  | change executionId action =>
      exact Or.inl Submission.splitPath_queuePath
  | catalog =>
      exact Or.inr (by decide +kernel)

/-- No other operation has a target below the route of executions. -/
theorem OtherRoute.target_ne
    {request : Request}
    (other : OtherRoute request)
    (text : List Char) :
    endpoint.target request ≠
      pathText (endpoint.routePath queueSegment) ++ '/' :: text := by
  rw [target_eq]
  intro same
  rcases other.segments with atQueue | atPlaybooks
  · rw [atQueue, urlFor_queue] at same
    exact queryText_ne_segment _ _ (List.append_cancel_left same)
  · rw [atPlaybooks, urlFor_playbooks, routePath, routePath, pathText_append,
      pathText_append, List.append_assoc, List.append_assoc] at same
    have differ := List.append_cancel_left same
    simp [pathText, playbooksSegment, queueSegment] at differ

/-! ## What is sent -/

theorem target_of_message
    {request : Request}
    {message : Message}
    (isMessage : endpoint.message request = .ok message) :
    message.target = String.ofList (endpoint.target request) := by
  unfold Endpoint.message at isMessage
  cases authorized : endpoint.authorization? with
  | none =>
      simp [authorized] at isMessage
  | some values =>
      by_cases sendable : isSendable (endpoint.addressOf request) = true
      · cases isOut : endpoint.network.isReachable with
        | false => simp [authorized, sendable, isOut] at isMessage
        | true =>
            simp only [authorized, sendable, isOut] at isMessage
            cases isMessage
            rfl
      · simp [authorized, sendable] at isMessage

/-- What goes out for a request is sent to the target of the request. -/
theorem target_of_sent
    {request : Request}
    {session : Session Response}
    {dispatch : Dispatch Message}
    (isSent : dispatch ∈ (endpoint.transport.exchange request session).sent) :
    dispatch.message.target = String.ofList (endpoint.target request) := by
  cases prepared : endpoint.message request with
  | error error =>
      simp [Transport.exchange, transport, prepared] at isSent
  | ok message =>
      have isMessage : dispatch.message = message := by
        cases replies : session.replies <;>
          simp_all [Transport.exchange, transport]
      rw [isMessage]
      exact endpoint.target_of_message prepared

/--
At every root, an identity is asked for at a segment of its own that stands for
it, below the root and the route of executions, exactly when it is plain.
Different plain identities are asked for at different targets, none of them that
of another operation.
-/
theorem status_keeps_route :
    (∀ id, endpoint.KeepsRoute id ↔ IsPlain id) ∧
    (∀ id other, IsPlain id → IsPlain other →
      endpoint.target (Statuses.statusRequest id) =
        endpoint.target (Statuses.statusRequest other) → id = other) ∧
    (∀ id request, IsPlain id → OtherRoute request →
      endpoint.target (Statuses.statusRequest id) ≠ endpoint.target request) ∧
    (∀ id session,
      ∀ dispatch ∈ (Statuses.get endpoint.transport id session).sent,
      dispatch.message.target =
        String.ofList (endpoint.target (Statuses.statusRequest id))) := by
  refine ⟨fun _ => endpoint.keepsRoute_iff,
    fun _ _ => endpoint.target_injective, ?_, ?_⟩
  · intro id request isPlain other
    rw [target_of_plain endpoint isPlain]
    exact (OtherRoute.target_ne endpoint other _).symm
  · intro id session dispatch isSent
    exact endpoint.target_of_sent isSent

/-- A root that is read from a text makes a queue at that root. -/
theorem ofText_of_evaluated
    {network : Network}
    {text : String}
    {root : Url}
    (evaluated : (Url.ofText text).toOption = some root) :
    ofText network text =
      .ok {
        root := root
        token := none
        timeout := none
        network := network
      } := by
  unfold ofText
  cases isRead : Url.ofText text with
  | error fault =>
      rw [isRead] at evaluated
      cases evaluated
  | ok url =>
      rw [isRead] at evaluated
      cases evaluated
      rfl

/-- A root with a query of its own. -/
def exampleRoot : Url where
  scheme := .http
  userInfo := none
  host := .domain ['h', 'o', 's', 't']
  port := some 5000
  path := [['a', 'p', 'i'], []]
  query := some ['k', '=', 'v']
  fragment := none

/-- The queue at the root. -/
def exampleEndpoint : Endpoint where
  root := exampleRoot
  token := none
  timeout := none
  network := .reachable

theorem exampleEndpoint_accepted :
    ofText .reachable "http://host:5000/api/?k=v" = .ok exampleEndpoint :=
  ofText_of_evaluated (by decide +kernel)

theorem status_keeps_route_reserved :
    ofText .reachable "http://host:5000/api/?k=v" = .ok exampleEndpoint ∧
    IsPlain "..%2F/?#é" ∧
    IsPlain "..." ∧
    exampleEndpoint.KeepsRoute "..%2F/?#é" ∧
    exampleEndpoint.target (Statuses.statusRequest "..%2F/?#é") ≠
      exampleEndpoint.target (Statuses.statusRequest "...") ∧
    exampleEndpoint.target (Statuses.statusRequest "..%2F/?#é") ≠
      exampleEndpoint.target (Statuses.pageRequest PageNumber.first) := by
  have isPlain : IsPlain "..%2F/?#é" := by decide
  have otherIsPlain : IsPlain "..." := by decide
  obtain ⟨keeps, differ, leaves, -⟩ := status_keeps_route exampleEndpoint
  refine ⟨exampleEndpoint_accepted, isPlain, otherIsPlain,
    (keeps _).mpr isPlain, ?_, leaves _ _ isPlain (.listing PageNumber.first)⟩
  intro same
  exact absurd (differ _ _ isPlain otherIsPlain same) (by decide)

/--
What is not plain leaves the route: one dot and two ask for the route of
executions itself, dropped characters make two identities one, and before two
dots they even lead out of the route.
-/
theorem dots_and_breaks_leave_route :
    ∃ endpoint, ofText .reachable "http://host:5000/api/?k=v" = .ok endpoint ∧
      ¬ endpoint.KeepsRoute "." ∧
      endpoint.target (Statuses.statusRequest ".") =
        endpoint.target (Submission.request "w") ∧
      endpoint.target (Statuses.statusRequest ".") =
        endpoint.target (Statuses.statusRequest "..") ∧
      ¬ endpoint.KeepsRoute "a\tb" ∧
      endpoint.target (Statuses.statusRequest "a\tb") =
        endpoint.target (Statuses.statusRequest "ab") ∧
      String.ofList (endpoint.target (Statuses.statusRequest "\n..")) =
        "/api/?k=v" := by
  refine ⟨exampleEndpoint, exampleEndpoint_accepted, ?_, ?_, ?_, ?_, ?_, ?_⟩
  · rw [keepsRoute_iff]
    decide
  · decide +kernel
  · decide +kernel
  · rw [keepsRoute_iff]
    decide
  · decide +kernel
  · decide +kernel

end Http.Endpoint

end WorkflowQueue
