import WorkflowQueue.Proofs.Text.Utf8
import WorkflowQueue.Proofs.Url.Routes
import WorkflowQueue.Proofs.Url.Slashes

namespace WorkflowQueue

/-!
# Addresses of requests

A request changes the root of the queue only in its path, which goes on where
the path of the root ends, and in its parameters, which follow those of the
root. The segments can be read back from what is added to the path: no escaped
segment holds a slash.
-/

namespace Url

/-! ## Where the segments of requests begin -/

/-- A text without one slash at its end. -/
def dropSlash
    (text : List Char) :
    List Char :=
  if text.getLast? = some '/' then text.dropLast else text

/--
The path that segments are written after: without one slash at its end, and no
lone slash.
-/
def stem
    (text : List Char) :
    List Char :=
  if dropSlash text = ['/'] then [] else dropSlash text

theorem splitOn_append_pathText
    {segment : List Char}
    {path : List (List Char)}
    (areSegments : AreSegments (segment :: path)) :
    Text.splitOn '/' (segment ++ pathText path) = segment :: path := by
  induction path generalizing segment with
  | nil =>
      rw [pathText, List.flatMap_nil, List.append_nil]
      exact Text.splitOn_of_undivided areSegments.of_cons.1
  | cons next rest inductionHypothesis =>
      have shape :
          pathText (next :: rest) = '/' :: (next ++ pathText rest) := rfl
      rw [shape, Text.splitOn_append_separator,
        Text.splitOn_of_undivided areSegments.of_cons.1,
        inductionHypothesis areSegments.of_cons.2, List.singleton_append]

/-- A written path is split into its segments after the first slash. -/
theorem splitOn_pathText
    {path : List (List Char)}
    (areSegments : AreSegments path) :
    Text.splitOn '/' (pathText path) = [] :: path :=
  splitOn_append_pathText
    (List.forall_mem_cons.mpr ⟨List.not_mem_nil, areSegments⟩)

/-- A path is determined by how it is written. -/
theorem pathText_injective
    {first second : List (List Char)}
    (areSegments : AreSegments first)
    (areSegments' : AreSegments second)
    (same : pathText first = pathText second) :
    first = second := by
  have samePieces := congrArg (Text.splitOn '/') same
  rw [splitOn_pathText areSegments, splitOn_pathText areSegments'] at samePieces
  exact (List.cons.inj samePieces).2

theorem pathText_eq_slash_iff
    {path : List (List Char)}
    (areSegments : AreSegments path) :
    pathText path = ['/'] ↔ path = [[]] :=
  ⟨pathText_injective areSegments .of_nothing, fun same => by rw [same]; rfl⟩

/-- Without one slash at its end, a written path lacks an empty last segment. -/
theorem dropSlash_pathText
    {path : List (List Char)}
    (areSegments : AreSegments path) :
    dropSlash (pathText path) = pathText (openPath path) := by
  rcases List.eq_nil_or_concat path with rfl | ⟨before, last, rfl⟩
  · rfl
  · rw [List.concat_eq_append] at areSegments ⊢
    have shape :
        pathText (before ++ [last]) = pathText before ++ '/' :: last := by
      simp [pathText]
    rcases List.eq_nil_or_concat last with rfl | ⟨front, c, rfl⟩
    · have opened : openPath (before ++ [[]]) = before := by simp [openPath]
      rw [shape, opened]
      simp [dropSlash]
    · rw [List.concat_eq_append] at areSegments shape ⊢
      have notSlash : c ≠ '/' := by
        rintro rfl
        exact areSegments (front ++ ['/']) (by simp) (by simp)
      have opened :
          openPath (before ++ [front ++ [c]]) = before ++ [front ++ [c]] := by
        unfold openPath
        split
        · next isReverse => simp at isReverse
        · rfl
      have isLast :
          pathText before ++ '/' :: (front ++ [c]) =
            (pathText before ++ '/' :: front) ++ [c] := by
        simp
      rw [opened, shape, dropSlash, if_neg]
      rw [isLast, List.getLast?_concat]
      exact fun isSlash => notSlash (Option.some.inj isSlash)

theorem AreSegments.openPath
    {path : List (List Char)}
    (areSegments : AreSegments path) :
    AreSegments (openPath path) := by
  intro segment member
  unfold Url.openPath at member
  split at member
  · next rest isReverse =>
      have isPath : path = rest.reverse ++ [[]] := by
        rw [← List.reverse_reverse path, isReverse, List.reverse_cons]
      exact areSegments segment (by simp [isPath, member])
  · exact areSegments segment member

/-- Segments are added where the written path has its stem. -/
theorem stem_pathText
    {path : List (List Char)}
    (areSegments : AreSegments path) :
    stem (pathText path) = pathText (rootSegments path) := by
  unfold stem rootSegments base
  rw [dropSlash_pathText areSegments]
  by_cases isRoot : openPath path = [[]]
  · rw [isRoot]
    rfl
  · have notSlash : pathText (openPath path) ≠ ['/'] :=
      mt (pathText_eq_slash_iff areSegments.openPath).mp isRoot
    rw [if_neg isRoot, if_neg notSlash]

/-! ## Segments -/

theorem encode_ne_nil
    {segment : String}
    (notEmpty : segment ≠ "") :
    Component.segment.encode segment.toList ≠ [] := by
  intro isEmpty
  exact notEmpty ((encode_eq_iff "" rfl).mp isEmpty)

/-- Segments in escaped form, in which no character is dropped. -/
def escapedSegments
    (segments : List String) :
    List (List Char) :=
  segments.map fun segment => Component.segment.encode segment.toList

theorem areSegments_escapedSegments
    (segments : List String) :
    AreSegments (escapedSegments segments) := by
  intro segment member
  obtain ⟨original, -, rfl⟩ := List.mem_map.mp member
  exact fun isSlash => (encode_segment_ne_separator isSlash).1 rfl

/--
Plain segments are added one after another to a path of more than an empty
segment.
-/
theorem foldl_addSegment_of_plain
    {segments : List String}
    (arePlain : ∀ segment ∈ segments, IsPlain segment)
    {path : List (List Char)}
    (notEmpty : path ≠ [])
    (notRoot : path ≠ [[]]) :
    segments.foldl addSegment path = path ++ escapedSegments segments := by
  induction segments generalizing path with
  | nil => simp [escapedSegments]
  | cons segment rest inductionHypothesis =>
      obtain ⟨isPlain, restPlain⟩ := List.forall_mem_cons.mp arePlain
      have notRoot' :
          path ++ [Component.segment.encode segment.toList] ≠ [[]] := by
        intro isRoot
        exact notEmpty (by simpa using congrArg List.length isRoot)
      rw [List.foldl_cons, addSegment_of_plain isPlain, base, if_neg notRoot,
        inductionHypothesis restPlain (by simp) notRoot', List.append_assoc]
      rfl

/--
Plain segments, the first of which is not empty, are added below a root as they
are.
-/
theorem withSegments_of_plain
    {first : String}
    {rest : List String}
    (notEmpty : first ≠ "")
    (arePlain : ∀ segment ∈ first :: rest, IsPlain segment)
    (url : Url) :
    (url.withSegments (first :: rest)).path =
      rootSegments url.path ++ escapedSegments (first :: rest) := by
  obtain ⟨isPlain, restPlain⟩ := List.forall_mem_cons.mp arePlain
  have notRoot :
      rootSegments url.path ++
        [Component.segment.encode first.toList] ≠ [[]] := by
    intro isRoot
    simpa [encode_ne_nil notEmpty] using List.append_eq_singleton_iff.mp isRoot
  unfold withSegments
  rw [List.foldl_cons, addSegment_of_plain isPlain, base_closePath,
    ← rootSegments, foldl_addSegment_of_plain restPlain (by simp) notRoot,
    List.append_assoc]
  rfl

/-! ## Parameters -/

/-- The parameters of a query, as they are written. -/
def writtenParameters :
    Option (List Char) →
    List (List Char)
  | none => []
  | some [] => []
  | some query => Text.splitOn '&' query

/-- A parameter as it is written. -/
def parameterText
    (parameter : String × String) :
    List Char :=
  encodeForm parameter.1.toList ++ '=' :: encodeForm parameter.2.toList

theorem ampersand_notMem_encodeForm
    (text : List Char) :
    '&' ∉ encodeForm text := by
  intro member
  obtain ⟨c, -, inForm⟩ := List.mem_flatMap.mp member
  split at inForm
  · next isSafe =>
      rw [← List.mem_singleton.mp inForm] at isSafe
      exact absurd isSafe (by decide)
  · split at inForm
    · exact absurd (List.mem_singleton.mp inForm) (by decide)
    · obtain ⟨byte, -, inEscape⟩ := List.mem_flatMap.mp inForm
      simp only [escapeByte, List.mem_cons, List.not_mem_nil, or_false]
        at inEscape
      rcases inEscape with isMark | isHigh | isLow
      · exact absurd isMark (by decide)
      · exact upperHexDigit_ne (by decide) _ isHigh.symm
      · exact upperHexDigit_ne (by decide) _ isLow.symm

theorem ampersand_notMem_parameterText
    (parameter : String × String) :
    '&' ∉ parameterText parameter := by
  simp [parameterText, ampersand_notMem_encodeForm]

/-- Parameters are written apart. -/
theorem splitOn_formText
    (parameter : String × String)
    (rest : List (String × String)) :
    Text.splitOn '&' (formText (parameter :: rest)) =
      (parameter :: rest).map parameterText := by
  induction rest generalizing parameter with
  | nil =>
      exact Text.splitOn_of_undivided (ampersand_notMem_parameterText parameter)
  | cons next others inductionHypothesis =>
      have shape :
          formText (parameter :: next :: others) =
            parameterText parameter ++ '&' :: formText (next :: others) := by
        simp [formText, parameterText]
      rw [shape, Text.splitOn_append_separator,
        Text.splitOn_of_undivided (ampersand_notMem_parameterText parameter),
        inductionHypothesis]
      rfl

theorem formText_ne_nil
    (parameter : String × String)
    (rest : List (String × String)) :
    formText (parameter :: rest) ≠ [] := by
  cases rest <;> simp [formText]

theorem writtenParameters_of_ne_nil
    {query : List Char}
    (notEmpty : query ≠ []) :
    writtenParameters (some query) = Text.splitOn '&' query := by
  cases query with
  | nil => exact (notEmpty rfl).elim
  | cons c rest => rfl

/-- The written query goes on with what is added to it. -/
theorem query_withParameters
    (url : Url)
    (parameter : String × String)
    (rest : List (String × String)) :
    (url.withParameters (parameter :: rest)).query =
      match url.query with
      | some (c :: query) =>
          some ((c :: query) ++ '&' :: formText (parameter :: rest))
      | _ => some (formText (parameter :: rest)) := by
  unfold withParameters
  rcases url.query with _ | _ | _ <;> simp

/-- Parameters are added after those of the address. -/
theorem writtenParameters_withParameters
    (url : Url)
    (parameters : List (String × String)) :
    writtenParameters (url.withParameters parameters).query =
      writtenParameters url.query ++ parameters.map parameterText := by
  cases parameters with
  | nil => simp [withParameters]
  | cons parameter rest =>
      have alone :
          writtenParameters (some (formText (parameter :: rest))) =
            (parameter :: rest).map parameterText := by
        rw [writtenParameters_of_ne_nil (formText_ne_nil parameter rest),
          splitOn_formText]
      rw [query_withParameters]
      rcases url.query with _ | _ | ⟨c, query⟩
      · exact alone
      · exact alone
      · rw [writtenParameters_of_ne_nil (by simp),
          Text.splitOn_append_separator, splitOn_formText]
        rfl

/-- What is written of the query stays. -/
theorem query_isPrefix_withParameters
    (url : Url)
    (parameters : List (String × String)) :
    url.query.getD [] <+: (url.withParameters parameters).query.getD [] := by
  cases parameters with
  | nil => simp [withParameters]
  | cons parameter rest =>
      rw [query_withParameters]
      rcases url.query with _ | _ | ⟨c, query⟩ <;> simp

end Url

namespace Http.Endpoint

open Url

variable
  (endpoint : Endpoint)

/-- The segments of a written path, split at its slashes and without escapes. -/
def segmentsOf
    (path : List Char) :
    List (Option String) :=
  ((Text.splitOn '/' path).drop 1).map fun segment =>
    (plain? segment).map String.ofList

theorem plain?_encode
    (segment : String) :
    (plain? (Component.segment.encode segment.toList)).map String.ofList =
      some segment := by
  have isRead :=
    Text.readUtf8?_eq_some_iff.mpr
      (decode_encode segment_escapesMark segment.toList).symm
  rw [plain?, isRead, Option.map_some, String.ofList_toList]

/-- The segments of a request are read back from what is written for them. -/
theorem segmentsOf_escapedSegments
    (segments : List String) :
    segmentsOf (pathText (escapedSegments segments)) = segments.map some := by
  unfold segmentsOf
  rw [splitOn_pathText (areSegments_escapedSegments segments), List.drop_one,
    List.tail_cons, escapedSegments, List.map_map]
  exact List.map_congr_left fun segment _ => plain?_encode segment

/--
Nothing leads out of the root: the place above an execution is the root itself.
-/
theorem placeAbove_routePath :
    placeAbove (endpoint.routePath queueSegment) =
      rootSegments endpoint.root.path := by
  have isLast :
      (endpoint.routePath queueSegment).getLast? = some queueSegment :=
    List.getLast?_concat
  have notDrive : isDriveLetter queueSegment = false := by decide
  rw [placeAbove, isLast, Option.any_some, notDrive, if_neg Bool.false_ne_true]
  exact List.dropLast_concat

/-- An identity leaves the segments of the root alone, whatever it is. -/
theorem urlFor_status_eq_append
    (id : String) :
    ∃ first rest,
      (endpoint.urlFor (Statuses.statusRequest id).segments).path =
        rootSegments endpoint.root.path ++ first :: rest := by
  rw [urlFor_status]
  simp only [addSegment, if_neg endpoint.routePath_ne_root,
    placeAbove_routePath]
  split
  · exact ⟨queueSegment, [], rfl⟩
  · split
    · exact ⟨[], [], rfl⟩
    · split
      · exact ⟨queueSegment, [[]], by rw [routePath, List.append_assoc]; rfl⟩
      · exact ⟨queueSegment, [encodeSegment id],
          by rw [routePath, List.append_assoc]; rfl⟩

/--
The path of an execution begins with that of the root, but for one slash at its
end.
-/
theorem dropSlash_isPrefix_status
    (areSegments : AreSegments endpoint.root.path)
    (id : String) :
    dropSlash (pathText endpoint.root.path) <+:
      pathText (endpoint.urlFor (Statuses.statusRequest id).segments).path := by
  obtain ⟨first, rest, isPath⟩ := endpoint.urlFor_status_eq_append id
  have isStem := stem_pathText areSegments
  unfold stem at isStem
  split at isStem
  · next isSlash =>
      rw [isSlash, isPath, pathText_append, ← isStem]
      exact ⟨first ++ pathText rest, rfl⟩
  · rw [isStem, isPath, pathText_append]
    exact List.prefix_append _ _

/-! ## Requests below a root -/

theorem root_of_ofText
    {network : Network}
    {text : String}
    {endpoint : Endpoint}
    (accepted : ofText network text = .ok endpoint) :
    Url.ofText text = .ok endpoint.root := by
  unfold ofText at accepted
  split at accepted
  · cases accepted
  · next root isRead =>
      cases accepted
      exact isRead

/--
Parameters follow those of the root, and the written query of the root stays as
it is.
-/
theorem addressOf_parameters
    (endpoint : Endpoint)
    (request : Request) :
    let query := (endpoint.addressOf request).query
    endpoint.root.query.getD [] <+: query.getD [] ∧
      writtenParameters query =
        writtenParameters endpoint.root.query ++
          request.query.map parameterText := by
  have sameQuery :
      (endpoint.addressOf request).query =
        ((endpoint.urlFor request.segments).withParameters
          request.query).query := by
    unfold addressOf
    dsimp only
    split <;> rfl
  rw [sameQuery]
  exact ⟨query_isPrefix_withParameters (endpoint.urlFor request.segments)
    request.query,
      writtenParameters_withParameters (endpoint.urlFor request.segments)
        request.query⟩

/--
The address of a request, for every root that is accepted and that does not end
in a slash of its query or fragment. Any number of slashes more at the end makes
the same root. The address has all parts of the written root but the path, and
parameters come after its own. The path of an execution begins with that of the
root without one slash at its end. Plain segments, the first of which is not
empty, are written in order after the stem of that path, and are read back from
there.
-/
theorem urlFor_extends_root
    {network : Network}
    {text : String}
    {endpoint : Endpoint}
    (accepted : ofText network text = .ok endpoint)
    (endsInPath :
      text.toList.getLast? = some '/' → ∀ c ∈ text.toList, c ≠ '?' ∧ c ≠ '#') :
    (∀ count, ofText network
        (text ++ String.ofList (List.replicate count '/')) = .ok endpoint) ∧
      (∀ given, Url.read text.toList = .ok given →
        endpoint.root.SameBesidesPath given) ∧
      (∀ segments, (endpoint.urlFor segments).SameBesidesPath endpoint.root) ∧
      (∀ request,
        let query := (endpoint.addressOf request).query
        endpoint.root.query.getD [] <+: query.getD [] ∧
          writtenParameters query =
            writtenParameters endpoint.root.query ++
              request.query.map parameterText) ∧
      (∀ id,
        dropSlash (pathText endpoint.root.path) <+:
          pathText
            (endpoint.urlFor (Statuses.statusRequest id).segments).path) ∧
      ∀ first rest, first ≠ "" → (∀ segment ∈ first :: rest, IsPlain segment) →
        let added := pathText (escapedSegments (first :: rest))
        pathText (endpoint.urlFor (first :: rest)).path =
            stem (pathText endpoint.root.path) ++ added ∧
          segmentsOf added = (first :: rest).map some := by
  have isRead := root_of_ofText accepted
  have areSegments : AreSegments endpoint.root.path :=
    areSegments_of_read isRead
  refine ⟨?_, ?_, ?_, endpoint.addressOf_parameters,
    endpoint.dropSlash_isPrefix_status areSegments, ?_⟩
  · intro count
    unfold ofText at accepted ⊢
    rw [ofText_append_slashes, isRead]
    rw [isRead] at accepted
    exact accepted
  · intro given isGiven
    exact sameBesidesPath_of_ofText endsInPath isRead isGiven
  · intro segments
    exact ⟨rfl, rfl, rfl, rfl, rfl, rfl⟩
  · intro first rest notEmpty arePlain
    refine ⟨?_, segmentsOf_escapedSegments _⟩
    unfold urlFor
    rw [withSegments_of_plain notEmpty arePlain, pathText_append,
      stem_pathText areSegments]

/-- A root with all parts, whose path has empty segments. -/
def fullRoot : Url where
  scheme := .http
  userInfo := some { name := ['u'], password := some ['p'] }
  host := .domain ['h', 'o', 's', 't']
  port := some 5000
  path := [['a', 'p', 'i'], [], []]
  query := some ['k', '=', 'v']
  fragment := some ['f']

/-- The queue at that root. -/
def fullEndpoint : Endpoint where
  root := fullRoot
  token := none
  timeout := none
  network := .reachable

theorem urlFor_extends_fullRoot :
    ofText .reachable "http://u:p@host:5000/api//?k=v#f" = .ok fullEndpoint ∧
      IsPlain "a/b %é" ∧
      pathText (fullEndpoint.urlFor ["workflowqueue", "a/b %é", ""]).path =
        "/api//workflowqueue/a%2Fb%20%25%C3%A9/".toList ∧
      segmentsOf "/workflowqueue/a%2Fb%20%25%C3%A9/".toList =
        [some "workflowqueue", some "a/b %é", some ""] := by
  have accepted :
      ofText .reachable "http://u:p@host:5000/api//?k=v#f" = .ok fullEndpoint :=
    ofText_of_evaluated (by decide +kernel)
  have endsInPath :
      "http://u:p@host:5000/api//?k=v#f".toList.getLast? = some '/' →
        ∀ c ∈ "http://u:p@host:5000/api//?k=v#f".toList, c ≠ '?' ∧ c ≠ '#' := by
    decide
  have arePlain :
      ∀ segment ∈ ["workflowqueue", "a/b %é", ""], IsPlain segment := by decide
  obtain ⟨-, -, -, -, -, plain⟩ := urlFor_extends_root accepted endsInPath
  obtain ⟨isPath, isRead⟩ :=
    plain "workflowqueue" ["a/b %é", ""] (by decide) arePlain
  refine ⟨accepted, arePlain _ (by simp), ?_, ?_⟩
  · rw [isPath]
    decide +kernel
  · have isWritten :
        "/workflowqueue/a%2Fb%20%25%C3%A9/".toList =
          pathText (escapedSegments ["workflowqueue", "a/b %é", ""]) := by
      decide +kernel
    rw [isWritten]
    exact isRead

/-- A root whose path is two slashes. -/
def slashesRoot : Url where
  scheme := .http
  userInfo := none
  host := .domain ['h', 'o', 's', 't']
  port := none
  path := [[], []]
  query := some ['k', '=', 'v']
  fragment := none

/--
Where the path of a root is two slashes, segments are written in place of both.
-/
theorem two_slashes_dropped :
    ∃ endpoint, ofText .reachable "http://host//?k=v" = .ok endpoint ∧
      "http://host//?k=v".toList.getLast? ≠ some '/' ∧
      pathText endpoint.root.path = "//".toList ∧
      pathText (endpoint.urlFor ["workflowqueue", "e"]).path =
        "/workflowqueue/e".toList ∧
      pathText (endpoint.urlFor ["workflowqueue", "e"]).path ≠
        dropSlash (pathText endpoint.root.path) ++
          pathText (escapedSegments ["workflowqueue", "e"]) := by
  have isRead :
      (Url.ofText "http://host//?k=v").toOption = some slashesRoot := by
    decide +kernel
  refine ⟨_, ofText_of_evaluated isRead, by decide, by decide,
    by decide +kernel, ?_⟩
  decide +kernel

end Http.Endpoint

end WorkflowQueue
