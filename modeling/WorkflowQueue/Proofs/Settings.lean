import WorkflowQueue.Proofs.CommandLine.Outcomes
import WorkflowQueue.Proofs.Growth
import WorkflowQueue.Proofs.Instants
import WorkflowQueue.Proofs.Text.Blanks

namespace WorkflowQueue

/-!
# Settings from variables

Which variables settings can be read from, and which settings they give.
`WritesSeconds` says what a text has to look like to be a number of seconds,
without the reader that trims it and looks for its sign; `Config.Loads` says
what settings are made of the variables, and `Config.FirstFault` which variable
is reported when there are none. `Config.ofLookup_spec` joins them to the
reader, for every lookup.
-/

/-! ## Numbers -/

namespace Decimal

/-- A bounded number is written as digits that may follow a plus sign. -/
theorem unsigned?_eq_some_iff
    {limit value : Nat}
    {written : List Char} :
    unsigned? limit written = some value ↔
      ∃ sign digits, written = sign ++ digits ∧ (sign = [] ∨ sign = ['+']) ∧
        value? digits = some value ∧ value < limit := by
  constructor
  · intro isNumber
    unfold unsigned? at isNumber
    rw [Option.filter_eq_some_iff, decide_eq_true_eq] at isNumber
    obtain ⟨isValue, below⟩ := isNumber
    split at isValue
    · next digits => exact ⟨['+'], digits, rfl, Or.inr rfl, isValue, below⟩
    · exact ⟨[], written, rfl, Or.inl rfl, isValue, below⟩
  · rintro ⟨sign, digits, rfl, rfl | rfl, isValue, below⟩
    · have unsigned : ∀ rest, digits ≠ '+' :: rest := by
        rintro rest rfl
        have allDigits := (value?_eq_some_iff.mp isValue).2.1
        exact absurd (allDigits '+' List.mem_cons_self) (by decide)
      have same :
          unsigned? limit digits = (value? digits).filter (· < limit) := by
        unfold unsigned?
        split
        · next rest => exact (unsigned rest rfl).elim
        · rfl
      rw [List.nil_append, same, isValue]
      simp [below]
    · have same : unsigned? limit ('+' :: digits) =
          (value? digits).filter (· < limit) := rfl
      rw [List.singleton_append, same, isValue]
      simp [below]

end Decimal

namespace Config

/--
A positive number of seconds as it may be written: digits, with any zeros in
front, after an optional plus sign, and with white space around them. The number
fits 64 bits.
-/
structure SecondsText where
  before : List Char
  sign : List Char
  digits : List Char
  after : List Char
  blankBefore : Text.Blank before
  blankAfter : Text.Blank after
  isSign : sign = [] ∨ sign = ['+']
  notEmpty : digits ≠ []
  allDigits : Decimal.AllDigits digits
  inRange :
    1 ≤ Nat.ofDigitChars 10 digits 0 ∧
      Nat.ofDigitChars 10 digits 0 ≤ 18446744073709551615

/-- A text that writes a number of seconds. -/
def WritesSeconds
    (written : String)
    (seconds : Nat) :
    Prop :=
  ∃ text : SecondsText,
    written.toList = text.before ++ ((text.sign ++ text.digits) ++ text.after) ∧
      Nat.ofDigitChars 10 text.digits 0 = seconds

/-- A sign and digits hold no white space. -/
theorem SecondsText.visible
    (text : SecondsText) :
    ∀ c ∈ text.sign ++ text.digits, Text.isWhiteSpace c = false := by
  refine List.forall_mem_append.mpr ⟨?_, fun c isDigit => ?_⟩
  · rcases text.isSign with none | plus
    · rw [none]
      exact List.forall_mem_nil _
    · rw [plus]
      exact List.forall_mem_singleton.mpr (by decide)
  · exact Rfc3339.isWhiteSpace_of_isDigit (text.allDigits c isDigit)

theorem seconds?_eq_some_iff
    {written : String}
    {seconds : Nat} :
    seconds? written = some seconds ↔ WritesSeconds written seconds := by
  rw [seconds?, Option.filter_eq_some_iff, Decimal.unsigned?_eq_some_iff,
    decide_eq_true_eq]
  constructor
  · rintro ⟨⟨sign, digits, trimmed, isSign, isValue, below⟩, positive⟩
    obtain ⟨notEmpty, allDigits, rfl⟩ := Decimal.value?_eq_some_iff.mp isValue
    obtain ⟨before, after, shape, blankBefore, blankAfter⟩ :=
      Text.exists_blanks_trim written.toList
    rw [trimmed] at shape
    exact ⟨{
      before := before
      sign := sign
      digits := digits
      after := after
      blankBefore := blankBefore
      blankAfter := blankAfter
      isSign := isSign
      notEmpty := notEmpty
      allDigits := allDigits
      inRange := ⟨positive, Nat.le_of_lt_succ below⟩
    }, shape, rfl⟩
  · rintro ⟨text, shape, rfl⟩
    have trimmed :=
      Text.trim_append text.blankBefore text.blankAfter text.visible
    rw [← shape] at trimmed
    exact ⟨⟨text.sign, text.digits, trimmed, text.isSign,
      Decimal.value?_eq_some_iff.mpr ⟨text.notEmpty, text.allDigits, rfl⟩,
      Nat.lt_succ_of_le text.inRange.2⟩, text.inRange.1⟩

example : seconds? "\u3000 +007\n" = some 7 := by decide +kernel

example : seconds? "18446744073709551616" = none := by decide +kernel

/-! ## Variables -/

section Variables

variable
  (lookup : String → Option String)

/-- A variable is not set, or it holds a number of seconds. -/
def IsValid
    (key : String) :
    Prop :=
  ∀ written, lookup key = some written →
    ∃ seconds, WritesSeconds written seconds

/--
The seconds that a variable asks for, or those for a variable that is not set.
-/
def Asks
    (key : String)
    (default seconds : Nat) :
    Prop :=
  (lookup key = none ∧ seconds = default) ∨
    ∃ written, lookup key = some written ∧ WritesSeconds written seconds

/-- What settings are made of the variables. -/
structure Loads
    (config : Config) :
    Prop where
  apiUrl :
    config.apiUrl = (lookup "WFQUEUE_API_URL").getD "http://localhost:5000/api"
  apiToken :
    ∀ token, config.apiToken = some token ↔
      lookup "WFQUEUE_API_TOKEN" = some token ∧
        ∃ c ∈ token.toList, Text.isWhiteSpace c = false
  requestTimeout :
    ∃ seconds, Asks lookup "WFQUEUE_REQUEST_TIMEOUT_SECS" 30 seconds ∧
      config.requestTimeout = Duration.ofSeconds seconds
  backoff :
    ∃ first limit,
      Asks lookup "WFQUEUE_POLL_INTERVAL_SECS" 1 first ∧
      Asks lookup "WFQUEUE_POLL_MAX_INTERVAL_SECS" 30 limit ∧
      config.backoff = {
        initialDelay := Duration.ofSeconds first
        maxDelay := Duration.ofSeconds (max limit first)
        multiplier := Binary64.ofNat 2
      }

/--
The first variable, in the order in which numbers are read, that holds none.
-/
structure FirstFault
    (fault : InvalidNumber) :
    Prop where
  isFirst :
    ∃ earlier later,
      [
        "WFQUEUE_REQUEST_TIMEOUT_SECS",
        "WFQUEUE_POLL_INTERVAL_SECS",
        "WFQUEUE_POLL_MAX_INTERVAL_SECS"
      ] = earlier ++ fault.key :: later ∧
      ∀ key ∈ earlier, IsValid lookup key
  value : lookup fault.key = some fault.value
  notNumber : ¬ ∃ seconds, WritesSeconds fault.value seconds

end Variables

variable
  {lookup : String → Option String}
  {key : String}
  {default : Nat}

theorem readSeconds_eq_ok_iff
    {seconds : Nat} :
    readSeconds lookup key default = .ok seconds ↔
      Asks lookup key default seconds := by
  unfold readSeconds Asks
  cases lookup key with
  | none => simp [eq_comm]
  | some written =>
      simp only [← seconds?_eq_some_iff]
      cases number : seconds? written <;> simp [number]

theorem readSeconds_eq_error_iff
    {fault : InvalidNumber} :
    readSeconds lookup key default = .error fault ↔
      fault.key = key ∧ lookup key = some fault.value ∧
        ¬ ∃ seconds, WritesSeconds fault.value seconds := by
  unfold readSeconds
  cases isSet : lookup key with
  | none => simp
  | some written =>
      simp only [← seconds?_eq_some_iff]
      rcases fault with ⟨faultKey, value⟩
      cases number : seconds? written with
      | none => grind
      | some seconds => grind

/-- A number can be read from a variable that is valid. -/
theorem isValid_of_readSeconds
    {seconds : Nat}
    (isRead : readSeconds lookup key default = .ok seconds) :
    IsValid lookup key := by
  intro written isSet
  rcases readSeconds_eq_ok_iff.mp isRead with
    ⟨notSet, -⟩ | ⟨other, isOther, writes⟩
  · rw [notSet] at isSet
    cases isSet
  · rw [isOther] at isSet
    cases isSet
    exact ⟨seconds, writes⟩

theorem exists_readSeconds_of_isValid
    (default : Nat)
    (valid : IsValid lookup key) :
    ∃ seconds, readSeconds lookup key default = .ok seconds := by
  simp only [readSeconds_eq_ok_iff]
  cases isSet : lookup key with
  | none => exact ⟨default, Or.inl ⟨isSet, rfl⟩⟩
  | some written =>
      obtain ⟨seconds, writes⟩ := valid written isSet
      exact ⟨seconds, Or.inr ⟨written, isSet, writes⟩⟩

/-! ## Settings -/

/-- Settings are what their three numbers and the two texts make of them. -/
theorem ofLookup_eq_ok_iff
    {config : Config} :
    ofLookup lookup = .ok config ↔ Loads lookup config := by
  have hasToken (token : String) :
      (lookup apiTokenKey).filter (fun token => !Text.isAllBlank token.toList) =
          some token ↔
        lookup apiTokenKey = some token ∧
          ∃ c ∈ token.toList, Text.isWhiteSpace c = false := by
    rw [Option.filter_eq_some_iff, Bool.not_eq_true',
      Text.isAllBlank_eq_false_iff]
  simp only [ofLookup, Except.bind_eq_ok_iff, Except.pure_eq_ok_iff,
    readSeconds_eq_ok_iff]
  constructor
  · rintro ⟨timeout, asksTimeout, first, asksFirst, limit, asksLimit, rfl⟩
    exact {
      apiUrl := rfl
      apiToken := hasToken
      requestTimeout := ⟨timeout, asksTimeout, rfl⟩
      backoff := ⟨first, limit, asksFirst, asksLimit, rfl⟩
    }
  · rintro ⟨isUrl, isToken, ⟨timeout, asksTimeout, isTimeout⟩,
      ⟨first, limit, asksFirst, asksLimit, isBackoff⟩⟩
    rcases config with ⟨apiUrl, apiToken, requestTimeout, backoff⟩
    obtain rfl : apiToken = (lookup apiTokenKey).filter fun token =>
        !Text.isAllBlank token.toList := by
      ext token
      exact (isToken token).trans (hasToken token).symm
    cases isUrl
    cases isTimeout
    cases isBackoff
    exact ⟨timeout, asksTimeout, first, asksFirst, limit, asksLimit, rfl⟩

/-- A number that cannot be read is the first fault after valid variables. -/
theorem FirstFault.of_readSeconds
    {fault : InvalidNumber}
    (earlier later : List String)
    (shape : numberKeys = earlier ++ key :: later)
    (valid : ∀ key ∈ earlier, IsValid lookup key)
    (refused : readSeconds lookup key default = .error fault) :
    FirstFault lookup fault := by
  obtain ⟨rfl, value, notNumber⟩ := readSeconds_eq_error_iff.mp refused
  exact ⟨⟨earlier, later, shape, valid⟩, value, notNumber⟩

/--
Settings that cannot be read are refused for the first variable that holds no
number.
-/
theorem ofLookup_eq_error_iff
    {fault : InvalidNumber} :
    ofLookup lookup = .error fault ↔ FirstFault lookup fault := by
  simp only [ofLookup, Except.bind_eq_error_iff, Except.pure_ne_error,
    and_false, exists_false, or_false]
  constructor
  · rintro (refused | ⟨timeout, isTimeout, refused | ⟨first, isFirst, refused⟩⟩)
    · exact .of_readSeconds [] _ rfl (List.forall_mem_nil _) refused
    · have valid : ∀ key ∈ [requestTimeoutKey], IsValid lookup key :=
        List.forall_mem_singleton.mpr (isValid_of_readSeconds isTimeout)
      exact .of_readSeconds _ [pollMaxIntervalKey] rfl valid refused
    · have valid :
          ∀ key ∈ [requestTimeoutKey, pollIntervalKey], IsValid lookup key :=
        List.forall_mem_cons.mpr ⟨isValid_of_readSeconds isTimeout,
          List.forall_mem_singleton.mpr (isValid_of_readSeconds isFirst)⟩
      exact .of_readSeconds _ [] rfl valid refused
  · rintro ⟨⟨earlier, later, shape, valid⟩, value, notNumber⟩
    change numberKeys = earlier ++ fault.key :: later at shape
    have refused (default : Nat) :
        readSeconds lookup fault.key default = .error fault :=
      readSeconds_eq_error_iff.mpr ⟨rfl, value, notNumber⟩
    -- The variables before the first fault are the first none, one or two of
    -- the three.
    rcases earlier with
        _ | ⟨timeoutKey, _ | ⟨intervalKey, _ | ⟨third, earlier⟩⟩⟩ <;>
      simp only [numberKeys, List.cons_append, List.nil_append, List.cons.injEq]
        at shape
    · obtain ⟨isKey, -⟩ := shape
      exact Or.inl (isKey ▸ refused _)
    · obtain ⟨rfl, isKey, -⟩ := shape
      obtain ⟨timeout, isTimeout⟩ :=
        exists_readSeconds_of_isValid _ (valid _ List.mem_cons_self)
      exact Or.inr ⟨timeout, isTimeout, Or.inl (isKey ▸ refused _)⟩
    · obtain ⟨rfl, rfl, isKey, -⟩ := shape
      simp only [List.forall_mem_cons] at valid
      obtain ⟨timeout, isTimeout⟩ := exists_readSeconds_of_isValid _ valid.1
      obtain ⟨first, isFirst⟩ := exists_readSeconds_of_isValid _ valid.2.1
      exact Or.inr ⟨timeout, isTimeout,
        Or.inr ⟨first, isFirst, isKey ▸ refused _⟩⟩
    · simp at shape

/--
Settings from variables wait a second or more, and no wait is longer than the
limit.
-/
theorem Loads.waits
    {config : Config}
    (loads : Loads lookup config) :
    Duration.ofSeconds 1 ≤ config.backoff.initialDelay ∧
      config.backoff.initialDelay ≤ config.backoff.maxDelay := by
  obtain ⟨first, limit, asksFirst, -, isBackoff⟩ := loads.backoff
  have positive : 1 ≤ first :=
    readSeconds_pos (by decide) (readSeconds_eq_ok_iff.mpr asksFirst)
  rw [isBackoff]
  exact ⟨Duration.ofSeconds_le_iff.mpr positive,
    Duration.ofSeconds_le_iff.mpr (Nat.le_max_right _ _)⟩

/-- Settings can be read when every variable for a number is valid. -/
theorem exists_ofLookup_iff
    (lookup : String → Option String) :
    (∃ config, ofLookup lookup = .ok config) ↔
      ∀ key ∈ numberKeys, IsValid lookup key := by
  constructor
  · rintro ⟨config, loaded⟩
    simp only [ofLookup, Except.bind_eq_ok_iff] at loaded
    obtain ⟨timeout, isTimeout, first, isFirst, limit, isLimit, -⟩ := loaded
    simp only [numberKeys, List.forall_mem_cons]
    exact ⟨isValid_of_readSeconds isTimeout, isValid_of_readSeconds isFirst,
      isValid_of_readSeconds isLimit, List.forall_mem_nil _⟩
  · intro valid
    cases outcome : ofLookup lookup with
    | ok config => exact ⟨config, rfl⟩
    | error fault =>
        obtain ⟨⟨earlier, later, shape, -⟩, value, notNumber⟩ :=
          ofLookup_eq_error_iff.mp outcome
        change numberKeys = earlier ++ fault.key :: later at shape
        have isKey : fault.key ∈ numberKeys := by
          rw [shape]
          exact List.mem_append_right earlier List.mem_cons_self
        exact (notNumber (valid fault.key isKey fault.value value)).elim

/-- No variable but the five of the settings has any influence. -/
theorem ofLookup_congr
    {other : String → Option String}
    (same : ∀ key ∈ keys, other key = lookup key) :
    ofLookup other = ofLookup lookup := by
  simp only [keys, List.forall_mem_cons] at same
  obtain ⟨sameUrl, sameToken, sameTimeout, sameInterval, sameLimit, -⟩ := same
  unfold ofLookup readSeconds
  rw [sameUrl, sameToken, sameTimeout, sameInterval, sameLimit]

/--
Settings are read from exactly those variables of which each of the three for
numbers is not set or holds a positive number of seconds. They are the settings
that the variables ask for, they wait at least a second and at most up to their
limit, and where they cannot be read, the first variable at fault is reported as
it stands. No other variable counts.
-/
theorem ofLookup_spec
    (lookup : String → Option String) :
    ((∃ config, ofLookup lookup = .ok config) ↔
      ∀ key ∈ [
        "WFQUEUE_REQUEST_TIMEOUT_SECS",
        "WFQUEUE_POLL_INTERVAL_SECS",
        "WFQUEUE_POLL_MAX_INTERVAL_SECS"
      ], IsValid lookup key) ∧
      (∀ config, ofLookup lookup = .ok config ↔ Loads lookup config) ∧
      (∀ config, ofLookup lookup = .ok config →
        Duration.ofSeconds 1 ≤ config.backoff.initialDelay ∧
          config.backoff.initialDelay ≤ config.backoff.maxDelay) ∧
      (∀ fault, ofLookup lookup = .error fault ↔ FirstFault lookup fault) ∧
      ∀ other : String → Option String,
        (∀ key ∈ [
          "WFQUEUE_API_URL",
          "WFQUEUE_API_TOKEN",
          "WFQUEUE_REQUEST_TIMEOUT_SECS",
          "WFQUEUE_POLL_INTERVAL_SECS",
          "WFQUEUE_POLL_MAX_INTERVAL_SECS"
        ], other key = lookup key) →
          ofLookup other = ofLookup lookup :=
  ⟨exists_ofLookup_iff lookup, fun _ => ofLookup_eq_ok_iff,
    fun _ loaded => (ofLookup_eq_ok_iff.mp loaded).waits,
    fun _ => ofLookup_eq_error_iff, fun _ same => ofLookup_congr same⟩

end Config

end WorkflowQueue
