import Mathlib.Data.List.Basic
import WorkflowQueue.Proofs.Records.Comparing
import WorkflowQueue.Proofs.Text.Split
import WorkflowQueue.Request

namespace WorkflowQueue

/-!
# How requests are put together

A request is opened for a route and then gets segments and query parameters one
by one. `HasPieces` says what the pieces of a route are without splitting it,
`build_eq` what any number of steps makes of a request, and `splitPath_path_iff`
when a request is found again in its own path: just when no segment could be
taken for more or less than one piece.
-/

namespace Request

/-! ## Pieces of a route -/

/-- A text that can stand between two slashes and is not empty. -/
def IsPiece
    (text : String) :
    Prop :=
  text ≠ "" ∧ '/' ∉ text.toList

/--
The pieces of a text: slashes are passed over wherever they stand, and
everything up to the next slash or the end is one piece.
-/
inductive HasPieces :
    List Char →
    List String →
    Prop where
  | nothing : HasPieces [] []
  | slash
      {text : List Char}
      {pieces : List String}
      (later : HasPieces text pieces) :
      HasPieces ('/' :: text) pieces
  | piece
      {piece : String}
      {text : List Char}
      {pieces : List String}
      (isPiece : IsPiece piece)
      (ended : ∀ c ∈ text.head?, c = '/')
      (later : HasPieces text pieces) :
      HasPieces (piece.toList ++ text) (piece :: pieces)

/-- Those of some texts that are not empty. -/
def notEmptyOf
    (texts : List (List Char)) :
    List String :=
  (texts.filter fun text => !text.isEmpty).map String.ofList

theorem notEmptyOf_cons
    {text : List Char}
    (notEmpty : text ≠ [])
    (texts : List (List Char)) :
    notEmptyOf (text :: texts) = String.ofList text :: notEmptyOf texts := by
  simp [notEmptyOf, notEmpty]

/-- What splitting finds in a text. -/
def piecesOf
    (text : List Char) :
    List String :=
  notEmptyOf (Text.splitOn '/' text)

theorem splitPath_eq
    (path : String) :
    splitPath path = piecesOf path.toList :=
  rfl

theorem isPiece_ofList
    {text : List Char}
    (notEmpty : text ≠ [])
    (undivided : '/' ∉ text) :
    IsPiece (String.ofList text) := by
  constructor
  · intro empty
    exact notEmpty (by simpa using congrArg String.toList empty)
  · rw [String.toList_ofList]
    exact undivided

/-- A slash divides a text into the pieces before it and those after it. -/
theorem piecesOf_append_slash
    (first second : List Char) :
    piecesOf (first ++ '/' :: second) = piecesOf first ++ piecesOf second := by
  simp only [piecesOf, notEmptyOf, Text.splitOn_append_separator,
    List.filter_append, List.map_append]

theorem piecesOf_slash
    (text : List Char) :
    piecesOf ('/' :: text) = piecesOf text :=
  piecesOf_append_slash [] text

/-- A piece is found as it is. -/
theorem IsPiece.piecesOf_eq
    {piece : String}
    (isPiece : IsPiece piece) :
    piecesOf piece.toList = [piece] := by
  have notEmpty : piece.toList ≠ [] :=
    fun empty => isPiece.1 (String.toList_eq_nil_iff.mp empty)
  rw [piecesOf, Text.splitOn_of_undivided isPiece.2, notEmptyOf_cons notEmpty,
    String.ofList_toList]
  rfl

/-- Splitting finds pieces only. -/
theorem isPiece_of_mem
    {text : List Char}
    {piece : String}
    (member : piece ∈ piecesOf text) :
    IsPiece piece := by
  obtain ⟨characters, isFound, rfl⟩ := List.mem_map.mp member
  obtain ⟨isSplit, notEmpty⟩ := List.mem_filter.mp isFound
  refine isPiece_ofList ?_ (Text.undivided_of_mem_splitOn isSplit)
  simpa using notEmpty

/-- Splitting finds the pieces of a text. -/
theorem HasPieces.piecesOf_eq
    {text : List Char}
    {pieces : List String}
    (hasPieces : HasPieces text pieces) :
    piecesOf text = pieces := by
  induction hasPieces with
  | nothing => rfl
  | slash later inductionHypothesis =>
      rw [piecesOf_slash, inductionHypothesis]
  | @piece piece text pieces isPiece ended later inductionHypothesis =>
      cases text with
      | nil =>
          rw [List.append_nil, isPiece.piecesOf_eq, ← inductionHypothesis]
          rfl
      | cons c rest =>
          obtain rfl : c = '/' := ended c rfl
          rw [piecesOf_slash] at inductionHypothesis
          rw [piecesOf_append_slash, isPiece.piecesOf_eq, inductionHypothesis]
          rfl

/--
What was read since the last slash is a piece at the end of it, unless it is
nothing.
-/
theorem hasPieces_after_read
    {read text : List Char}
    {texts : List (List Char)}
    (undivided : '/' ∉ read)
    (ended : ∀ c ∈ text.head?, c = '/')
    (later : HasPieces text (notEmptyOf texts)) :
    HasPieces (read.reverse ++ text) (notEmptyOf (read.reverse :: texts)) := by
  by_cases nothing : read = []
  · subst nothing
    exact later
  · have notEmpty : read.reverse ≠ [] :=
      fun empty => nothing (List.reverse_eq_nil_iff.mp empty)
    have isPiece : IsPiece (String.ofList read.reverse) :=
      isPiece_ofList notEmpty fun member =>
        undivided (List.mem_reverse.mp member)
    have hasPiece := HasPieces.piece isPiece ended later
    rw [String.toList_ofList] at hasPiece
    rw [notEmptyOf_cons notEmpty]
    exact hasPiece

/--
Every text has the pieces that splitting finds. The induction is on the text
that is still to be split, with the characters that were read since the last
slash in front of it.
-/
theorem hasPieces_splitAfter
    (read text : List Char)
    (undivided : '/' ∉ read) :
    HasPieces (read.reverse ++ text)
      (notEmptyOf (Text.splitAfter '/' read text)) := by
  induction text generalizing read with
  | nil => exact hasPieces_after_read undivided (by simp) .nothing
  | cons c rest inductionHypothesis =>
      rw [Text.splitAfter]
      by_cases isSlash : c = '/'
      · subst isSlash
        have later := inductionHypothesis [] List.not_mem_nil
        rw [if_pos rfl]
        exact hasPieces_after_read undivided (by simp) later.slash
      · have longer : '/' ∉ c :: read := by
          rw [List.mem_cons, not_or]
          exact ⟨fun same => isSlash same.symm, undivided⟩
        have shape :
            read.reverse ++ c :: rest = (c :: read).reverse ++ rest := by simp
        rw [if_neg isSlash, shape]
        exact inductionHypothesis _ longer

/-- The segments of a route are its pieces. -/
theorem hasPieces_iff
    {path : String}
    {pieces : List String} :
    HasPieces path.toList pieces ↔ splitPath path = pieces := by
  constructor
  · exact HasPieces.piecesOf_eq
  · rintro rfl
    exact hasPieces_splitAfter [] path.toList List.not_mem_nil

/-- Routes have the same segments when they have the same pieces. -/
theorem splitPath_eq_iff
    {path other : String} :
    splitPath path = splitPath other ↔
      ∀ pieces, HasPieces path.toList pieces ↔
        HasPieces other.toList pieces := by
  simp only [hasPieces_iff]
  constructor
  · intro same pieces
    rw [same]
  · intro same
    exact ((same _).mpr rfl)

/-! ## Steps -/

/-- One step in putting a request together. -/
inductive Step where
  | segment (text : String)
  | parameter (key value : String)

namespace Step

/-- The segment that a step appends. -/
def segment? :
    Step →
    Option String
  | .segment text => some text
  | .parameter _ _ => none

/-- The parameter that a step appends. -/
def parameter? :
    Step →
    Option (String × String)
  | .segment _ => none
  | .parameter key value => some (key, value)

/-- A request after a step. -/
def apply
    (request : Request) :
    Step →
    Request
  | .segment text => request.withSegment text
  | .parameter key value => request.withQuery key value

end Step

/-- A request after some steps. -/
def build
    (request : Request)
    (steps : List Step) :
    Request :=
  steps.foldl Step.apply request

/-- Steps append what they have, in their order, and change nothing else. -/
theorem build_eq
    (request : Request)
    (steps : List Step) :
    request.build steps = {
      request with
      segments := request.segments ++ steps.filterMap Step.segment?
      query := request.query ++ steps.filterMap Step.parameter?
    } := by
  induction steps generalizing request with
  | nil => simp [build]
  | cons step rest inductionHypothesis =>
      have first :
          request.build (step :: rest) = (step.apply request).build rest := rfl
      rw [first, inductionHypothesis]
      cases step with
      | segment text =>
          simp [Step.apply, withSegment, Step.segment?, Step.parameter?,
            List.filterMap_cons]
      | parameter key value =>
          simp [Step.apply, withQuery, Step.segment?, Step.parameter?,
            List.filterMap_cons]

/-! ## Parameters -/

section Parameters

variable
  {request : Request}
  {key value : String}

/-- The value of a name is that of its first parameter. -/
theorem queryParam?_eq_some_iff :
    request.queryParam? key = some value ↔
      ∃ earlier later,
        request.query = earlier ++ (key, value) :: later ∧
          ∀ parameter ∈ earlier, parameter.1 ≠ key := by
  rw [queryParam?, List.lookup_eq_some_iff]
  constructor
  · rintro ⟨earlier, later, shape, others⟩
    exact ⟨earlier, later, shape, fun parameter member =>
      (bne_iff_ne.mp (others parameter member)).symm⟩
  · rintro ⟨earlier, later, shape, others⟩
    exact ⟨earlier, later, shape, fun parameter member =>
      bne_iff_ne.mpr (others parameter member).symm⟩

/-- A name has no value when no parameter has that name. -/
theorem queryParam?_eq_none_iff :
    request.queryParam? key = none ↔
      ∀ parameter ∈ request.query, parameter.1 ≠ key := by
  rw [queryParam?, List.lookup_eq_none_iff]
  refine forall₂_congr fun parameter _ => ?_
  rw [bne_iff_ne, ne_comm]

/-- A parameter that is found stays what it is, whatever is appended. -/
theorem queryParam?_build
    (found : request.queryParam? key = some value)
    (steps : List Step) :
    (request.build steps).queryParam? key = some value := by
  rw [queryParam?] at found ⊢
  rw [build_eq, List.lookup_append, found]
  rfl

end Parameters

/-! ## Paths of requests -/

/-- The path of a request has every segment after a slash. -/
theorem toList_path
    (request : Request) :
    request.path.toList = request.segments.flatMap fun segment =>
      '/' :: segment.toList := by
  have appended (segments : List String) (path : String) :
      (segments.foldl
          (fun path segment => path ++ "/" ++ segment) path).toList =
        path.toList ++
          segments.flatMap fun segment => '/' :: segment.toList := by
    induction segments generalizing path with
    | nil => simp
    | cons segment rest inductionHypothesis =>
        rw [List.foldl_cons, inductionHypothesis, List.flatMap_cons]
        simp
  exact appended request.segments ""

/-- What is found in a path are the pieces of the segments. -/
theorem splitPath_path
    (request : Request) :
    splitPath request.path = request.segments.flatMap splitPath := by
  have found (text : List Char) (segments : List String) :
      piecesOf (text ++ segments.flatMap fun segment => '/' :: segment.toList) =
        piecesOf text ++ segments.flatMap splitPath := by
    induction segments generalizing text with
    | nil => simp
    | cons segment rest inductionHypothesis =>
        rw [List.flatMap_cons, List.flatMap_cons, List.cons_append,
          piecesOf_append_slash, inductionHypothesis]
        rfl
  rw [splitPath_eq, toList_path]
  exact found [] request.segments

/--
The segments are found again in the path just when each of them is a piece.
-/
theorem splitPath_path_iff
    (request : Request) :
    splitPath request.path = request.segments ↔
      ∀ segment ∈ request.segments, IsPiece segment := by
  rw [splitPath_path]
  constructor
  · intro same segment member
    rw [← same] at member
    obtain ⟨_, -, isFound⟩ := List.mem_flatMap.mp member
    exact isPiece_of_mem isFound
  · intro arePieces
    calc request.segments.flatMap splitPath
        = request.segments.flatMap fun segment => [segment] :=
          List.flatMap_congr fun segment member =>
            (arePieces segment member).piecesOf_eq
      _ = request.segments := List.flatMap_singleton' _

/-! ## Requests from their opening on -/

/-- A way to open a request. -/
inductive Opening where
  | get
  | post (body : Json)
  | patch (body : Json)

namespace Opening

/-- The request that is opened for a path. -/
def request
    (opening : Opening)
    (path : String) :
    Request :=
  match opening with
  | .get => Request.get path
  | .post body => Request.post path body
  | .patch body => Request.patch path body

/-- The method of such a request. -/
def method :
    Opening →
    Method
  | .get => .get
  | .post _ => .post
  | .patch _ => .patch

/-- The body of such a request. -/
def body? :
    Opening →
    Option Json
  | .get => none
  | .post body => some body
  | .patch body => some body

theorem request_eq
    (opening : Opening)
    (path : String) :
    opening.request path = ofPath opening.method path opening.body? := by
  cases opening with
  | get => rfl
  | post body => rfl
  | patch body => rfl

/--
Requests that come of one opening and the same steps are the same when their
routes are.
-/
theorem build_beq_iff
    {opening : Opening}
    (numeric : ∀ body ∈ opening.body?, body.Numeric)
    (path other : String)
    (steps : List Step) :
    ((opening.request path).build steps ==
        (opening.request other).build steps) = true ↔
      splitPath path = splitPath other := by
  have sameBody : (opening.body? == opening.body?) = true := by
    cases body : opening.body? with
    | none => rfl
    | some content => exact (numeric content body).same_self
  rw [build_eq, build_eq, request_eq, request_eq]
  show same _ _ = true ↔ _
  simp [same, ofPath, sameBody]

end Opening

/--
What a request is that was opened for a path and went through some steps: it has
the method and the body of its opening, the pieces of the path followed by the
appended segments, and the appended parameters, of which the first one of a name
is found under that name.
-/
structure Built
    (opening : Opening)
    (path : String)
    (steps : List Step)
    (request : Request) : Prop where
  method : request.method = opening.method
  body : request.body = opening.body?
  segments :
    ∀ pieces, HasPieces path.toList pieces ↔
      request.segments = pieces ++ steps.filterMap Step.segment?
  query : request.query = steps.filterMap Step.parameter?
  found :
    ∀ key value, request.queryParam? key = some value ↔
      ∃ earlier later,
        steps.filterMap Step.parameter? = earlier ++ (key, value) :: later ∧
          ∀ parameter ∈ earlier, parameter.1 ≠ key
  missing :
    ∀ key, request.queryParam? key = none ↔
      ∀ parameter ∈ steps.filterMap Step.parameter?, parameter.1 ≠ key

theorem build_built
    (opening : Opening)
    (path : String)
    (steps : List Step) :
    Built opening path steps ((opening.request path).build steps) := by
  rw [build_eq, opening.request_eq]
  constructor
  case method => rfl
  case body => rfl
  case segments =>
    intro pieces
    rw [hasPieces_iff]
    exact List.append_cancel_right_eq _ _ _ ▸ Iff.rfl
  case query => rfl
  case found =>
    intro key value
    exact queryParam?_eq_some_iff
  case missing =>
    intro key
    exact queryParam?_eq_none_iff

/--
Requests keep routes as the list of their pieces and take everything else as it
is. A request that was put together has the parts of its steps; a parameter that
is found in it is found whatever is appended later; two paths give the same
request, with the same steps or with none, just when they have the same pieces;
and a request for its own path has its segments just when no step appended a
segment that is empty or holds a slash.
-/
theorem built_in_normal_form
    (opening : Opening)
    (path : String)
    (steps : List Step) :
    let request := (opening.request path).build steps
    Built opening path steps request ∧
      (∀ key value more, request.queryParam? key = some value →
        (request.build more).queryParam? key = some value) ∧
      ((∀ body ∈ opening.body?, body.Numeric) →
        ∀ other, (request == (opening.request other).build steps) = true ↔
          ∀ pieces, HasPieces path.toList pieces ↔
            HasPieces other.toList pieces) ∧
      ∀ again : Opening,
        (again.request request.path).segments = request.segments ↔
          ∀ segment ∈ steps.filterMap Step.segment?, segment ≠ "" ∧
            '/' ∉ segment.toList := by
  have built := build_built opening path steps
  refine ⟨built, fun _ _ more found => queryParam?_build found more,
    fun numeric other => ?_, fun again => ?_⟩
  · exact (Opening.build_beq_iff numeric path other steps).trans
      splitPath_eq_iff
  · have segments :
        ((opening.request path).build steps).segments =
          splitPath path ++ steps.filterMap Step.segment? :=
      (built.segments _).mp (hasPieces_iff.mpr rfl)
    have routePieces : ∀ piece ∈ splitPath path, IsPiece piece :=
      fun _ => isPiece_of_mem
    rw [again.request_eq]
    refine (splitPath_path_iff _).trans ?_
    rw [segments, List.forall_mem_append]
    exact and_iff_right routePieces

theorem built_in_normal_form_hostile :
    let opening := Opening.post (.array [.null, .float (.finite false 1 0)])
    let steps :=
      [Step.segment "", .parameter "k" "1", .segment "x/y", .parameter "k" "2"]
    let request := (opening.request "//a//b/").build steps
    HasPieces "//a//b/".toList ["a", "b"] ∧
      request.segments = ["a", "b", "", "x/y"] ∧
      request.queryParam? "k" = some "1" ∧
      (∀ body ∈ opening.body?, body.Numeric) ∧
      (request == (opening.request "a/b").build steps) = true ∧
      (opening.request request.path).segments ≠ request.segments := by
  intro opening steps request
  have numeric : ∀ body ∈ opening.body?, body.Numeric := by
    intro body isBody
    obtain rfl : _ = body := Option.some.inj isBody
    refine .array _
      (List.forall_mem_cons.mpr ⟨.null, List.forall_mem_singleton.mpr ?_⟩)
    exact .float _ (by decide)
  have pieces : HasPieces "//a//b/".toList ["a", "b"] :=
    hasPieces_iff.mpr (by decide +kernel)
  have samePieces : splitPath "//a//b/" = splitPath "a/b" := by decide +kernel
  obtain ⟨built, -, same, again⟩ := built_in_normal_form opening "//a//b/" steps
  refine ⟨pieces, (built.segments _).mp pieces, ?_, numeric, ?_, ?_⟩
  · exact (built.found "k" "1").mpr ⟨[], [("k", "2")], rfl, by simp⟩
  · exact (same numeric "a/b").mpr (splitPath_eq_iff.mp samePieces)
  · intro found
    exact ((again opening).mp found "" (by simp [steps, Step.segment?])).1 rfl

end Request

end WorkflowQueue
