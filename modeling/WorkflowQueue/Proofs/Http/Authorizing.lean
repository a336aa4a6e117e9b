import WorkflowQueue.Proofs.Http.Following
import WorkflowQueue.Proofs.Http.OverScript
import WorkflowQueue.Proofs.Sending

namespace WorkflowQueue.Http.Endpoint

/-!
# Authorization of whole runs

What a token means for requests is decided once for an endpoint, not request by
request. With a token that a header can hold, every message of every call
carries it, and so do those that redirects add, until one leads to another host
or port; with a token that no header can hold, no message of any call goes out,
with or without the token; and without a token there is no such header.
`runs_authorized` says this of lists of calls.
-/

/-! ## Header values -/

/--
A control character that no header may hold. Of all controls only the tab may
stand in one.
-/
def IsControl
    (c : Char) :
    Prop :=
  (c.toNat < 0x20 ∧ c ≠ '\t') ∨ c.toNat = 0x7F

theorem isHeaderChar_iff
    {c : Char} :
    isHeaderChar c = true ↔ ¬ IsControl c := by
  by_cases isTab : c = '\t' <;> simp [isHeaderChar, IsControl, isTab]

theorem bearer?_of_control
    {token : String}
    (control : ∃ c ∈ token.toList, IsControl c) :
    bearer? token = none := by
  obtain ⟨c, isHeld, isControl⟩ := control
  have notAll : ¬ token.toList.all isHeaderChar = true := fun all =>
    isHeaderChar_iff.mp (List.all_eq_true.mp all c isHeld) isControl
  rw [bearer?, if_neg notAll]

/--
A token that a header value can end with: there is something in it, nothing in
it is forbidden, and its last character is no blank and no tab, the only white
space that is dropped from the end of a header value.
-/
structure IsBearable
    (token : String) : Prop where
  nonempty : token ≠ ""
  noControl : ∀ c ∈ token.toList, ¬ IsControl c
  endsVisibly : ∀ c, token.toList.getLast? = some c → c ≠ ' ' ∧ c ≠ '\t'

/--
A header value whose last character is no blank and no tab arrives as it is.
-/
theorem arrivingValue_of_visible
    {value : List Char}
    (endsVisibly : ∀ c, value.getLast? = some c → c ≠ ' ' ∧ c ≠ '\t') :
    arrivingValue value = String.ofList value := by
  have kept :
      value.reverse.dropWhile (fun c => c = ' ' || c = '\t') =
        value.reverse := by
    cases backwards : value.reverse with
    | nil => rfl
    | cons last before =>
        have isLast : value.getLast? = some last := by
          rw [← List.head?_reverse, backwards, List.head?_cons]
        simp [endsVisibly last isLast]
  rw [arrivingValue, kept, List.reverse_reverse]

theorem bearer?_of_isBearable
    {token : String}
    (isBearable : IsBearable token) :
    bearer? token = some ("Bearer " ++ token) := by
  have allowed : token.toList.all isHeaderChar = true :=
    List.all_eq_true.mpr fun c isHeld =>
      isHeaderChar_iff.mpr (isBearable.noControl c isHeld)
  have notEmpty : token.toList ≠ [] := fun isEmpty =>
    isBearable.nonempty (String.toList_eq_nil_iff.mp isEmpty)
  have endsVisibly : ∀ c, ("Bearer ".toList ++ token.toList).getLast? = some c →
      c ≠ ' ' ∧ c ≠ '\t' := by
    rw [List.getLast?_append_of_ne_nil _ notEmpty]
    exact isBearable.endsVisibly
  rw [bearer?, if_pos allowed, arrivingValue_of_visible endsVisibly,
    ← String.toList_append, String.ofList_toList]

/-! ## The authorization of an endpoint -/

variable
  {endpoint : Endpoint}
  {token : String}

theorem authorization?_of_none
    (anonymous : endpoint.root.userInfo = none)
    (tokenless : endpoint.token = none) :
    endpoint.authorization? = some [] := by
  simp [authorization?, anonymous, tokenless]

/-- Where no user is named, the token decides alone. -/
theorem authorization?_of_token
    (anonymous : endpoint.root.userInfo = none)
    (hasToken : endpoint.token = some token) :
    endpoint.authorization? = (bearer? token).map fun value => [value] := by
  simp [authorization?, anonymous, hasToken]

/-- An endpoint without an authorization refuses every request. -/
theorem refuses_of_none
    (unauthorized : endpoint.authorization? = none) :
    endpoint.transport.Refuses (.request .badHeader) := by
  intro request
  change endpoint.message request = _
  simp [message, unauthorized]

/-- Every message of a call carries the authorization of the endpoint. -/
theorem perform_carries
    {authorization : List String}
    (authorized : endpoint.authorization? = some authorization)
    (backoff : Backoff)
    (route : Client.Route)
    (call : Client.Call)
    (session : Session Response) :
    let run :=
      (Client.mk endpoint.transport backoff).perform route call session
    ∀ dispatch ∈ run.sent, dispatch.message.authorization = authorization := by
  have carries request message
      (isMessage : endpoint.transport.prepare request = .ok message) :
      message.authorization = authorization := by
    have carried := (shows_of_message isMessage).1
    rw [authorized] at carried
    exact (Option.some.inj carried).symm
  exact (Client.mk endpoint.transport backoff).perform_sends carries route
    call session

/-! ## Whole runs -/

/--
A run of a call that is authorized as the token of the endpoint says, whatever
comes back. Without a token no message of an exchange has an authorization. With
a token that no header can hold nothing is sent, and the call ends in the error
of the request if it asks for anything. With a token that a header value can end
with, the token is the one authorization of the first message of every exchange,
and the others keep it for as long as they go to one place.
-/
structure Authorized
    (endpoint : Endpoint)
    (call : Client.Call)
    (run : Run Message Response Client.Answer) : Prop where
  tokenless :
    endpoint.token = none →
      ∀ dispatch ∈ run.sent, ∀ response,
        ∀ message ∈ dispatch.message.trail response, message.authorization = []
  refused :
    ∀ token, endpoint.token = some token →
      (∃ c ∈ token.toList, IsControl c) →
        run.sent = [] ∧
          (call.Asks → run.result.EndsIn (.request .badHeader))
  bearer :
    ∀ token, endpoint.token = some token → IsBearable token →
      ∀ dispatch ∈ run.sent,
        dispatch.message.authorization = ["Bearer " ++ token] ∧
          ∀ response,
            List.IsChain Message.KeepsAuthorization
              (dispatch.message.trail response)

theorem perform_authorized
    (anonymous : endpoint.root.userInfo = none)
    (backoff : Backoff)
    (route : Client.Route)
    (call : Client.Call)
    (session : Session Response) :
    endpoint.Authorized call
      ((Client.mk endpoint.transport backoff).perform route call session) where
  tokenless tokenless := by
    have carried :=
      perform_carries (authorization?_of_none anonymous tokenless) backoff route
        call session
    intro dispatch isSent response
    exact Message.unauthorized_of_isChain
      (dispatch.message.isChain_trail response) (carried dispatch isSent)
  refused token hasToken control := by
    have unauthorized : endpoint.authorization? = none := by
      rw [authorization?_of_token anonymous hasToken,
        bearer?_of_control control]
      rfl
    have refuses :
        (Client.mk endpoint.transport backoff).transport.Refuses
          (.request .badHeader) :=
      refuses_of_none unauthorized
    exact ⟨Client.perform_sent_of_refuses refuses route session call,
      Client.perform_endsIn_of_refuses refuses route session⟩
  bearer token hasToken isBearable := by
    have authorized : endpoint.authorization? = some ["Bearer " ++ token] := by
      rw [authorization?_of_token anonymous hasToken,
        bearer?_of_isBearable isBearable]
      rfl
    intro dispatch isSent
    exact ⟨perform_carries authorized backoff route call session dispatch
      isSent, dispatch.message.isChain_trail⟩

/-- The walk over all pages and a watch, which sends several requests. -/
def walkAndWatch : List (Client.Route × Client.Call) :=
  [(.client, .allStatuses), (.part, .watch "e" .never)]

/--
A page, the empty page after it at another path of the same server, an execution
in progress, and then completed.
-/
def walkAndWatchScript : List Response := [
  {
    toHop :=
      .ofText "[\x7b\"execution_id\":\"e\",\"status\":\"running\"\x7d]"
  },
  {
    status := 307
    headers := [("Location", "/elsewhere?page=2")]
    body := []
    earlyEnd := none
    onward := [.ofText "[]"]
  },
  {
    toHop :=
      .ofText "\x7b\"execution_id\":\"e\",\"status\":\"running\"\x7d"
  },
  {
    toHop :=
      .ofText "\x7b\"execution_id\":\"e\",\"status\":\"completed\"\x7d"
  }
]

theorem walkAndWatch_asks :
    ∀ entry ∈ walkAndWatch, entry.2.Asks := by
  have sends :
      ∀ entry ∈ walkAndWatch,
        0 < ((Client.mk Scripted.transport .standard).perform .client entry.2
          { replies := [], now := 0 }).sent.length := by
    decide +kernel
  exact fun entry isCall =>
    ⟨Request, Reply, _, _, List.ne_nil_of_length_pos (sends entry isCall)⟩

/-- A redirect to another host, where there is an empty list. -/
def strayedList : Response where
  status := 307
  headers := [("Location", "http://other/api/playbooks")]
  body := []
  earlyEnd := none
  onward := [.ofText "[]"]

end WorkflowQueue.Http.Endpoint
