import WorkflowQueue.Proofs.Http.Following
import WorkflowQueue.Proofs.Mirroring
import WorkflowQueue.Proofs.Text.Utf8
import WorkflowQueue.Proofs.Url.Routes

namespace WorkflowQueue.Http

/-!
# The queue over HTTP and over a script

A script of replies says what comes of each request without any wire. Where a
server answers each request with a complete plain response, an endpoint does the
same: every call has the result that it has over the script, and the messages
that arrive are those of the scripted requests, in order.
`Endpoint.runs_over_script` is the statement for any list of calls. The one
thing that a script does not show is an address that cannot be asked for.
-/

/-! ## Plain responses -/

/-- The name of a header in lower case. -/
def loweredName
    (header : String × String) :
    List Char :=
  header.1.toList.map Char.toLower

/--
A complete response whose body is a plain text: its status goes with a body and
leads nowhere else, no content type says how to read it, and no mark stands
before the text.
-/
structure PlainResponse where
  status : Nat
  headers : List (String × String)
  text : String
  inRange : 200 ≤ status ∧ status < 600
  withBody : status ≠ 204 ∧ status ≠ 304
  staysHere :
    300 ≤ status ∧ status < 400 →
      ∀ header ∈ headers, loweredName header ≠ "location".toList
  untyped : ∀ header ∈ headers, loweredName header ≠ "content-type".toList
  unmarked : text.toList.head? ≠ some Text.byteOrderMark

namespace PlainResponse

/-- The response as a server sends it. -/
def response
    (plain : PlainResponse) :
    Response where
  status := plain.status
  headers := plain.headers
  body := Text.utf8 plain.text.toList
  earlyEnd := none

/--
The reply of a script that says the same: the text of a success, or a refusal
with it.
-/
def reply
    (plain : PlainResponse) :
    Reply where
  delay := 0
  outcome :=
    if plain.status < 300 then
      .ok plain.text else .error (.api plain.status plain.text)

variable (plain : PlainResponse)

theorem header?_contentType :
    plain.response.header? "content-type" = none := by
  unfold Hop.header?
  rw [Option.map_eq_none_iff, List.find?_eq_none]
  rintro ⟨name, value⟩ isListed isFound
  exact plain.untyped (name, value) isListed (of_decide_eq_true isFound)

/-- The text of a plain response arrives as it is. -/
theorem text?_response
    (legacy : Text.Legacy) :
    plain.response.text? legacy = some plain.text := by
  have withBody : plain.response.isBodiless = false := by
    simp [Hop.isBodiless, response, plain.withBody]
  have isRead :
      Text.readBody legacy none plain.response.body = plain.text := by
    rw [response, Text.readBody_utf8 legacy plain.unmarked,
      String.ofList_toList]
  rw [Hop.text?, withBody, plain.header?_contentType, isRead]
  rfl

/-- A plain response is worth its reply. -/
theorem outcome_response
    (legacy : Text.Legacy) :
    plain.response.outcome legacy = plain.reply.outcome := by
  rw [Hop.outcome, plain.text?_response, reply]
  by_cases successful : plain.status < 300
  · simp [Hop.isSuccess, response, plain.inRange.1, successful]
  · simp [Hop.isSuccess, response, successful]

/-- A plain response leads nowhere else. -/
theorem not_redirects :
    plain.response.redirects = false := by
  by_cases leads : 300 ≤ plain.status ∧ plain.status < 400
  · have noLocation : plain.response.header? "location" = none := by
      unfold Hop.header?
      rw [Option.map_eq_none_iff, List.find?_eq_none]
      rintro ⟨name, value⟩ isListed isFound
      exact plain.staysHere leads (name, value) isListed
        (of_decide_eq_true isFound)
    simp [Hop.redirects, noLocation]
  · have otherStatus :
        [301, 302, 303, 307, 308].contains plain.response.status = false := by
      simp only [response, List.contains_eq_mem, decide_eq_false_iff_not]
      intro member
      simp only [List.mem_cons, List.not_mem_nil, or_false] at member
      omega
    rw [Hop.redirects, otherStatus, Bool.false_and, Bool.false_and,
      Bool.false_and]

theorem reply_response
    (endpoint : Endpoint)
    (message : Message) :
    endpoint.reply message plain.response = plain.reply := by
  rw [Endpoint.reply, Message.course_of_not_redirects plain.not_redirects]
  simp only [Endpoint.replyOf]
  rw [plain.outcome_response]
  rfl

end PlainResponse

/-! ## Messages of requests -/

namespace Endpoint

/--
A message that shows a request: the same method, the target built from the root
with the segments and the query of the request, and a JSON text of its body
under the content type of JSON, or neither.
-/
structure Shows
    (endpoint : Endpoint)
    (request : Request)
    (message : Message) : Prop where
  method : message.method = request.method
  target :
    message.target =
      String.ofList
        ((endpoint.root.withSegments request.segments).withParameters
          request.query).targetText
  content :
    match request.body with
    | none => message.contentType = [] ∧ message.body = ""
    | some value =>
        message.contentType = ["application/json"] ∧
          message.body = Json.compact value

variable
  {endpoint : Endpoint}
  {authorization : List String}

/-- The user that is taken out of an address is not part of its target. -/
theorem targetText_addressOf
    (endpoint : Endpoint)
    (request : Request) :
    (endpoint.addressOf request).targetText =
      ((endpoint.root.withSegments request.segments).withParameters
        request.query).targetText := by
  unfold addressOf
  simp only
  split <;> rfl

/--
A message carries the authorization of its endpoint, and shows the request that
it is of.
-/
theorem shows_of_message
    {request : Request}
    {message : Message}
    (isMessage : endpoint.message request = .ok message) :
    endpoint.authorization? = some message.authorization ∧
      endpoint.Shows request message := by
  unfold Endpoint.message at isMessage
  cases authorized : endpoint.authorization? with
  | none => simp [authorized] at isMessage
  | some authorization =>
      simp only [authorized] at isMessage
      split at isMessage
      · cases isMessage
      split at isMessage
      · cases isMessage
      · obtain rfl := Except.ok.inj isMessage
        refine ⟨rfl, rfl,
          congrArg String.ofList (endpoint.targetText_addressOf request), ?_⟩
        cases request.body with
        | none => exact ⟨rfl, rfl⟩
        | some value => exact ⟨rfl, rfl⟩

/--
Where servers can be reached, a request whose address can be asked for is sent.
-/
theorem exists_message
    {request : Request}
    (reachable : endpoint.network.isReachable = true)
    (authorized : endpoint.authorization? = some authorization)
    (sendable : isSendable (endpoint.addressOf request) = true) :
    ∃ message,
      endpoint.message request = .ok message ∧
        endpoint.Shows request message := by
  have isSent : ∃ message, endpoint.message request = .ok message := by
    simp [message, authorized, sendable, reachable]
  obtain ⟨message, isMessage⟩ := isSent
  exact ⟨message, isMessage, (shows_of_message isMessage).2⟩

/-! ## The endpoint mirrors the script -/

/--
The endpoint as a mirror of a script, for requests whose addresses can be asked
for.
-/
def overScript
    (endpoint : Endpoint) :
    Mirror Request Reply Message Response where
  Shows := endpoint.Shows
  Answers reply response :=
    ∃ plain : PlainResponse, reply = plain.reply ∧ response = plain.response
  Fits request := isSendable (endpoint.addressOf request) = true
  lag := 0

/-- One exchange over HTTP mirrors the scripted exchange of the same request. -/
theorem exchanges_overScript
    (reachable : endpoint.network.isReachable = true)
    (authorized : endpoint.authorization? = some authorization) :
    endpoint.overScript.Exchanges Scripted.transport endpoint.transport := by
  intro request session imageSession sessions fitting
  have sendable : isSendable (endpoint.addressOf request) = true := by
    refine fitting { instant := session.now, message := request } ?_
    rw [Scripted.exchange_eq]
    exact List.mem_singleton_self _
  obtain ⟨message, isMessage, shows⟩ :=
    exists_message reachable authorized sendable
  rcases session with ⟨replies, now⟩
  rcases imageSession with ⟨responses, imageNow⟩
  obtain ⟨alike, sameTime⟩ := sessions
  obtain rfl : imageNow = now := sameTime
  have prepared : endpoint.transport.prepare request = .ok message := isMessage
  cases alike with
  | nil =>
      simp only [Transport.exchange, prepared]
      exact ⟨rfl, .cons ⟨rfl, shows⟩ .nil, .nil, rfl⟩
  | cons answers rest =>
      obtain ⟨plain, rfl, rfl⟩ := answers
      have answered :
          endpoint.transport.answer message plain.response = plain.reply :=
        plain.reply_response endpoint message
      simp only [Transport.exchange, prepared, answered]
      exact ⟨rfl, .cons ⟨rfl, shows⟩ .nil, rest, rfl⟩

/-! ## Lists of calls -/

/-- What calls do over a script that says what a server sends. -/
def scriptedRuns
    (backoff : Backoff)
    (calls : List (Client.Route × Client.Call))
    (script : List PlainResponse) :
    List (Run Request Reply Client.Answer) :=
  (Client.mk Scripted.transport backoff).performAll calls
    { replies := script.map PlainResponse.reply, now := 0 }

/-- What calls do over HTTP while the server sends the responses of a script. -/
def runs
    (endpoint : Endpoint)
    (backoff : Backoff)
    (calls : List (Client.Route × Client.Call))
    (script : List PlainResponse) :
    List (Run Message Response Client.Answer) :=
  (Client.mk endpoint.transport backoff).performAll calls
    { replies := script.map PlainResponse.response, now := 0 }

/--
What a call gives and sends over HTTP is what it gives and sends over a script.
-/
structure SameRun
    (endpoint : Endpoint)
    (scripted : Run Request Reply α)
    (run : Run Message Response α) : Prop where
  result : run.result = scripted.result
  sent :
    List.Forall₂ (fun request message =>
      message.instant = request.instant ∧
        endpoint.Shows request.message message.message)
      scripted.sent run.sent

/--
Over HTTP every list of calls goes as over the script that says what the server
sends, provided that every request has an address that can be asked for: each
call gives the same result, and the messages that arrive show its requests one
for one, in order.
-/
theorem runs_over_script
    (reachable : endpoint.network.isReachable = true)
    (authorized : endpoint.authorization? = some authorization)
    (backoff : Backoff)
    (calls : List (Client.Route × Client.Call))
    (script : List PlainResponse)
    (sendable :
      ∀ run ∈ scriptedRuns backoff calls script,
        ∀ dispatch ∈ run.sent,
          isSendable (endpoint.addressOf dispatch.message) = true) :
    List.Forall₂ endpoint.SameRun (scriptedRuns backoff calls script)
      (endpoint.runs backoff calls script) := by
  have sessions :
      endpoint.overScript.Sessions
        { replies := script.map PlainResponse.reply, now := 0 }
        { replies := script.map PlainResponse.response, now := 0 } := by
    refine ⟨?_, rfl⟩
    rw [List.forall₂_map_left_iff, List.forall₂_map_right_iff]
    exact List.forall₂_same.mpr fun plain _ => ⟨plain, rfl, rfl⟩
  have mirrored :=
    (exchanges_overScript reachable authorized).performAll _ backoff rfl calls _
      sessions sendable
  refine mirrored.imp fun scripted run runs => ⟨runs.result, ?_⟩
  exact runs.sent.imp fun _ _ dispatches =>
    ⟨dispatches.instant, dispatches.message⟩

/-- An execution in progress, as a server sends it. -/
def examplePlain : PlainResponse where
  status := 200
  headers := [("x-served-by", "queue")]
  text := "\x7b\"execution_id\":\"e\",\"status\":\"running\"\x7d"
  inRange := by decide
  withBody := by decide
  staysHere := by decide
  untyped := by decide
  unmarked := by decide

/-- A refusal, as a server sends it. -/
def exampleRefusal : PlainResponse where
  status := 404
  headers := []
  text := "no such execution: é"
  inRange := by decide
  withBody := by decide
  staysHere := by decide
  untyped := by decide
  unmarked := by decide

/--
A status, a change of state, one page of a stream and a submission, the third
refused.
-/
def exampleCalls : List (Client.Route × Client.Call) := [
  (.client, .status "a/b"),
  (.part, .act "e" .abort),
  (.client, .pageStream .first (some 1)),
  (.part, .enqueue "w")
]

theorem runs_over_script_mixed :
    (∀ run ∈ scriptedRuns .standard exampleCalls
        [examplePlain, examplePlain, exampleRefusal],
      ∀ dispatch ∈ run.sent,
        isSendable (exampleEndpoint.addressOf dispatch.message) = true) ∧
    List.Forall₂ exampleEndpoint.SameRun
      (scriptedRuns .standard exampleCalls [examplePlain, examplePlain,
        exampleRefusal])
      (exampleEndpoint.runs .standard exampleCalls
        [examplePlain, examplePlain, exampleRefusal]) := by
  have sendable :
      ∀ run ∈ scriptedRuns .standard exampleCalls
          [examplePlain, examplePlain, exampleRefusal],
        ∀ dispatch ∈ run.sent,
          isSendable (exampleEndpoint.addressOf dispatch.message) = true := by
    decide +kernel
  exact ⟨sendable,
    @runs_over_script exampleEndpoint [] rfl rfl .standard _ _ sendable⟩

/-! ## Addresses that cannot be asked for -/

/-- No character is without an escaped form. -/
theorem encodeChar_ne_nil
    (component : Url.Component)
    (c : Char) :
    component.encodeChar c ≠ [] := by
  have someByte : ∃ byte rest, String.utf8EncodeChar c = byte :: rest := by
    unfold String.utf8EncodeChar
    dsimp only
    split
    · exact ⟨_, _, rfl⟩
    split
    · exact ⟨_, _, rfl⟩
    split <;> exact ⟨_, _, rfl⟩
  obtain ⟨byte, rest, bytes⟩ := someByte
  unfold Url.Component.encodeChar
  split
  · rw [bytes, List.flatMap_cons]
    exact List.cons_ne_nil _ _
  · exact List.cons_ne_nil _ _

/-- Escapes make a text no shorter. -/
theorem length_le_length_encode
    (component : Url.Component)
    (text : List Char) :
    text.length ≤ (component.encode text).length := by
  induction text with
  | nil => exact Nat.zero_le _
  | cons c rest inductionHypothesis =>
      have notEmpty := List.length_pos_of_ne_nil (encodeChar_ne_nil component c)
      rw [Url.Component.encode, List.flatMap_cons, List.length_append,
        List.length_cons, Nat.add_comm]
      exact Nat.add_le_add notEmpty inductionHypothesis

/--
The address of an execution is no shorter than the identity of the execution.
-/
theorem length_le_length_address
    (endpoint : Endpoint)
    {id : String}
    (isPlain : Url.IsPlain id) :
    id.length ≤
      (endpoint.addressOf (Statuses.statusRequest id)).text.length := by
  have path := endpoint.addressOf_path (Statuses.statusRequest id)
  rw [urlFor_status, Url.addSegment_of_plain isPlain] at path
  have segment := length_le_length_encode .segment id.toList
  rw [String.length_toList] at segment
  rw [Url.text, String.length_ofList, Url.targetText_eq, path,
    Url.pathText_append]
  simp only [Url.pathText, List.length_append, List.flatMap_singleton,
    List.length_cons]
  omega

/-- A message is made of no request whose address cannot be asked for. -/
theorem message_of_not_sendable
    {request : Request}
    (authorized : endpoint.authorization? = some authorization)
    (notSendable : isSendable (endpoint.addressOf request) = false) :
    endpoint.message request =
      .error (.request (.badAddress (endpoint.addressOf request).text)) := by
  simp [message, authorized, notSendable]

/-- An execution with too long an identity cannot be asked for. -/
theorem not_sendable_of_long
    (endpoint : Endpoint)
    {id : String}
    (isPlain : Url.IsPlain id)
    (isLong : 65534 < id.length) :
    isSendable (endpoint.addressOf (Statuses.statusRequest id)) = false := by
  have tooLong :
      ¬ (endpoint.addressOf (Statuses.statusRequest id)).text.length ≤ 65534 :=
    Nat.not_le.mpr
      (Nat.lt_of_lt_of_le isLong (endpoint.length_le_length_address isPlain))
  unfold isSendable
  rw [decide_eq_false tooLong, Bool.and_false]

/--
A status whose address cannot be asked for is asked for over a script only.
-/
theorem not_sameRun_of_not_sendable
    {id : String}
    (authorized : endpoint.authorization? = some authorization)
    (notSendable :
      isSendable (endpoint.addressOf (Statuses.statusRequest id)) = false)
    (script : List PlainResponse) :
    ¬ List.Forall₂ endpoint.SameRun
      (scriptedRuns .standard [(.client, .status id)] script)
      (endpoint.runs .standard [(.client, .status id)] script) := by
  intro sameRuns
  obtain ⟨same, -⟩ := List.forall₂_cons.mp sameRuns
  have sent := same.sent.length_eq
  have prepared := message_of_not_sendable authorized notSendable
  have overHttp (session : Session Response) :
      (Statuses.get endpoint.transport id session).sent = [] := by
    simp [Statuses.get, Transport.fetch, Transport.exchange,
      transport, prepared]
  simp [Client.perform, Client.status, overHttp] at sent

/-- An identity of some length. -/
def uniformId
    (length : Nat) :
    String :=
  String.ofList (List.replicate length 'a')

theorem uniformId_length
    (length : Nat) :
    (uniformId length).length = length := by
  rw [uniformId, String.length_ofList, List.length_replicate]

theorem uniformId_isPlain
    {length : Nat}
    (isLong : 2 < length) :
    Url.IsPlain (uniformId length) := by
  refine ⟨?_, ?_, ?_⟩
  · intro same
    have isShort :=
      (uniformId_length length).symm.trans (congrArg String.length same)
    exact absurd (isShort ▸ isLong) (by decide)
  · intro same
    have isShort :=
      (uniformId_length length).symm.trans (congrArg String.length same)
    exact absurd (isShort ▸ isLong) (by decide)
  · intro c member
    rw [uniformId, String.toList_ofList] at member
    rw [List.eq_of_mem_replicate member]
    rfl

/-- An identity that is too long can be asked for over a script only. -/
theorem not_sameRun_of_long
    {length : Nat}
    (authorized : endpoint.authorization? = some authorization)
    (isLong : 65534 < length)
    (script : List PlainResponse) :
    ¬ List.Forall₂ endpoint.SameRun
      (scriptedRuns .standard [(.client, .status (uniformId length))] script)
      (endpoint.runs .standard [(.client, .status (uniformId length))]
        script) := by
  have isPlain : Url.IsPlain (uniformId length) := uniformId_isPlain (by omega)
  have tooLong : 65534 < (uniformId length).length := by rwa [uniformId_length]
  exact not_sameRun_of_not_sendable authorized
    (endpoint.not_sendable_of_long isPlain tooLong) script

/--
Not every address can be asked for. A root whose host holds a quote is accepted,
and yet nothing is sent to it; and at any root an identity can be too long.
-/
theorem not_sendable_over_script :
    (∃ endpoint, ofText .reachable "http://a\"b/api" = .ok endpoint ∧
      ¬ List.Forall₂ endpoint.SameRun
        (scriptedRuns .standard [(.client, .status "e")] [examplePlain])
        (endpoint.runs .standard [(.client, .status "e")] [examplePlain])) ∧
    ¬ List.Forall₂ exampleEndpoint.SameRun
      (scriptedRuns .standard [(.client, .status (uniformId 65535))]
        [examplePlain])
      (exampleEndpoint.runs .standard [(.client, .status (uniformId 65535))]
        [examplePlain]) := by
  constructor
  · have evaluated :
        (ofText .reachable "http://a\"b/api").toOption.any (fun endpoint =>
          endpoint.authorization? = some [] &&
            !isSendable (endpoint.addressOf (Statuses.statusRequest "e"))) =
              true := by
      decide +kernel
    cases accepted : ofText .reachable "http://a\"b/api" with
    | error error => simp [accepted, Except.toOption] at evaluated
    | ok endpoint =>
        simp only [accepted, Except.toOption, Option.any_some, Bool.and_eq_true,
          decide_eq_true_eq, Bool.not_eq_true'] at evaluated
        exact ⟨endpoint, rfl,
          not_sameRun_of_not_sendable evaluated.1 evaluated.2 _⟩
  · exact @not_sameRun_of_long exampleEndpoint [] _ rfl (by decide) _

end Endpoint

end WorkflowQueue.Http
