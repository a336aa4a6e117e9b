import WorkflowQueue.CommandLine.Program
import WorkflowQueue.Proofs.Records.Reading

namespace WorkflowQueue

/-!
# How the program ends

The program either does not come to a call of its client, and then it sends
nothing, or it carries out exactly one. Of that call it shows all or nothing:
the whole result on success, and no output otherwise, however far the call has
got. `Refused` lists what keeps the program from a call, `Runs` says which call
is made, and `Prints` what is shown of its answer. None of them follows the
program stage by stage; `program_cases` joins them to it.
-/

/-! ## Settings -/

namespace Config

/-- The variables that hold numbers of seconds. -/
def numberKeys : List String :=
  [requestTimeoutKey, pollIntervalKey, pollMaxIntervalKey]

/-- A variable that is set holds a number of seconds. -/
def Numbered
    (lookup : String → Option String)
    (key : String) :
    Prop :=
  ∀ written, lookup key = some written →
    ∃ seconds, seconds? written = some seconds

theorem exists_readSeconds_iff
    {lookup : String → Option String}
    {key : String}
    (default : Nat) :
    (∃ seconds, readSeconds lookup key default = .ok seconds) ↔
      Numbered lookup key := by
  unfold readSeconds Numbered
  cases lookup key with
  | none => simp
  | some written =>
      cases number : seconds? written <;> simp [number]

/--
Settings can be read when every number can, and they name the queue that is
asked for.
-/
theorem ofLookup_cases
    (lookup : String → Option String) :
    (∃ config, ofLookup lookup = .ok config ∧
        config.apiUrl = (lookup apiUrlKey).getD defaultApiUrl ∧
        ∀ key ∈ numberKeys, Numbered lookup key) ∨
      ∃ fault, ofLookup lookup = .error fault ∧
        ∃ key ∈ numberKeys, ¬Numbered lookup key := by
  unfold ofLookup
  cases timeout : readSeconds lookup requestTimeoutKey
    defaultTimeoutSeconds with
  | error fault =>
      refine Or.inr ⟨fault, rfl, requestTimeoutKey, by simp [numberKeys], ?_⟩
      rw [← exists_readSeconds_iff defaultTimeoutSeconds, timeout]
      simp
  | ok timeoutSeconds =>
  cases initial : readSeconds lookup pollIntervalKey
    Backoff.standard.initialDelay.seconds with
  | error fault =>
      refine Or.inr ⟨fault, rfl, pollIntervalKey, by simp [numberKeys], ?_⟩
      rw [← exists_readSeconds_iff Backoff.standard.initialDelay.seconds,
        initial]
      simp
  | ok initialSeconds =>
  cases limit : readSeconds lookup pollMaxIntervalKey
    Backoff.standard.maxDelay.seconds with
  | error fault =>
      refine Or.inr ⟨fault, rfl, pollMaxIntervalKey, by simp [numberKeys], ?_⟩
      rw [← exists_readSeconds_iff Backoff.standard.maxDelay.seconds, limit]
      simp
  | ok limitSeconds =>
      refine Or.inl ⟨_, rfl, rfl, ?_⟩
      simp only [numberKeys, List.forall_mem_cons]
      exact ⟨(exists_readSeconds_iff _).mp ⟨_, timeout⟩,
        (exists_readSeconds_iff _).mp ⟨_, initial⟩,
        (exists_readSeconds_iff _).mp ⟨_, limit⟩, List.forall_mem_nil _⟩

end Config

/-- A client can be made when the address of its queue can be read. -/
theorem Http.clientOfConfig_cases
    (network : Http.Network)
    (config : Config) :
    (∃ client url, Http.clientOfConfig network config = .ok client ∧
        Url.ofText config.apiUrl = .ok url) ∨
      ∃ error fault, Http.clientOfConfig network config = .error error ∧
        Url.ofText config.apiUrl = .error fault := by
  unfold Http.clientOfConfig Http.Endpoint.ofConfig Http.Endpoint.ofText
  cases Url.ofText config.apiUrl with
  | error fault => exact Or.inr ⟨_, fault, rfl, rfl⟩
  | ok url => exact Or.inl ⟨_, url, rfl, rfl⟩

theorem PageNumber.ofWord?_eq_none_iff
    {page : UInt32} :
    ofWord? page = none ↔ page = 0 := by
  simp [ofWord?, ← UInt32.toNat_inj]

namespace CommandLine

/-! ## Refusals -/

/-- The address at which the queue is looked for. -/
def Surroundings.apiUrl
    (surroundings : Surroundings)
    (arguments : Arguments) :
    String :=
  (arguments.apiUrl.or (surroundings.allVariables.value? Config.apiUrlKey)).getD
    Config.defaultApiUrl

/-- What keeps the program from a call of its client. -/
inductive Refused
    (surroundings : Surroundings)
    (words : List String) :
    Prop where
  | noArguments
      {refusal : Refusal}
      (unread : Arguments.read words = .error refusal)
  | badNumber
      {key written : String}
      (isNumber : key ∈ Config.numberKeys)
      (isSet : surroundings.allVariables.value? key = some written)
      (invalid : Config.seconds? written = none)
  | badAddress
      {arguments : Arguments}
      {fault : Url.Fault}
      (isRead : Arguments.read words = .ok arguments)
      (invalid : Url.ofText (surroundings.apiUrl arguments) = .error fault)
  | noPage
      {arguments : Arguments}
      (isRead : Arguments.read words = .ok arguments)
      (isList : arguments.command = .list 0 false)

/-- A number that cannot be read keeps the program from a call. -/
theorem Refused.of_not_numbered
    {surroundings : Surroundings}
    {words : List String}
    {key : String}
    (isNumber : key ∈ Config.numberKeys)
    (notNumbered : ¬Config.Numbered surroundings.allVariables.value? key) :
    Refused surroundings words := by
  simp only [Config.Numbered, not_forall, ← Option.ne_none_iff_exists']
    at notNumbered
  obtain ⟨written, isSet, invalid⟩ := notNumbered
  exact .badNumber isNumber isSet (not_not.mp invalid)

/-! ## Calls -/

/-- How the user interrupts a watch. -/
def Surroundings.interrupt
    (surroundings : Surroundings) :
    Watch.Cancellation :=
  { Watch.Cancellation.never with onRequest := surroundings.interruptOnRequest }

/--
The call that a command asks for, unless it asks for the page that does not
exist.
-/
def Command.call?
    (interrupt : Watch.Cancellation) :
    Command →
    Option Client.Call
  | .playbooks => some .playbooks
  | .enqueue workflowId => some (.enqueue workflowId)
  | .status executionId => some (.status executionId)
  | .list _ true => some .allStatuses
  | .list page false => (PageNumber.ofWord? page).map .statusPage
  | .action executionId token => some (.act executionId { token := token })
  | .watch executionId => some (.watch executionId interrupt)

/--
The program makes a call of its client, with the responses that the network will
bring.
-/
def Runs
    (surroundings : Surroundings)
    (words : List String)
    (run : Run Http.Message Http.Response Client.Answer) :
    Prop :=
  ∃ arguments client call,
    Arguments.read words = .ok arguments ∧
    surroundings.client arguments = .ok client ∧
    arguments.command.call? surroundings.interrupt = some call ∧
    run = client.perform .client call
      { replies := surroundings.responses, now := 0 }

/-- What is shown of an answer. Of an error nothing is shown. -/
inductive Prints :
    Client.Answer →
    String →
    Prop where
  | status (record : WorkflowStatus) :
      Prints (.status (.ok record)) ((Wire.toJson record).pretty ++ "\n")
  | statuses (records : List WorkflowStatus) :
      Prints (.statuses (.ok records)) ((Wire.toJson records).pretty ++ "\n")
  | playbooks (records : List Playbook) :
      Prints (.playbooks (.ok records)) ((Wire.toJson records).pretty ++ "\n")
  | done : Prints (.done (.ok ())) ""
  | ended (record : WorkflowStatus) :
      Prints (.watched (some (.ok record)))
        ((Wire.toJson record).pretty ++ "\n")
  | interrupted : Prints (.watched none) ""

/-- Only the page that does not exist asks for no call. -/
theorem Command.call?_eq_none_iff
    {interrupt : Watch.Cancellation}
    {command : Command} :
    command.call? interrupt = none ↔ command = .list 0 false := by
  cases command with
  | list page all =>
      cases all with
      | true => simp [call?]
      | false => simp [call?, PageNumber.ofWord?_eq_none_iff]
  | _ => simp [call?]

/-- A run of texts that shows what a run of answers has given. -/
structure Shows
    (shown : Run Http.Message Http.Response (Except QueueError String))
    (run : Run Http.Message Http.Response Client.Answer) :
    Prop where
  sent_eq : shown.sent = run.sent
  prints_iff : ∀ text, shown.result = .ok text ↔ Prints run.result text

theorem Shows.of_map
    {change : α → String}
    {wrap : Except QueueError α → Client.Answer}
    (prints :
      ∀ record text, change record = text ↔ Prints (wrap (.ok record)) text)
    (silent : ∀ error text, ¬Prints (wrap (.error error)) text)
    (run : Run Http.Message Http.Response (Except QueueError α)) :
    Shows (run.map (Except.map change)) (run.map wrap) where
  sent_eq := rfl
  prints_iff text := by
    rw [Run.map_result, Run.map_result]
    cases run.result with
    | error error => simp [Except.map, silent]
    | ok record => simp [Except.map, prints]

/-- A command makes its call and shows the answer. -/
theorem Command.run_shows
    {command : Command}
    {interrupt : Watch.Cancellation}
    {call : Client.Call}
    (asks : command.call? interrupt = some call)
    (client : Client Http.Message Http.Response)
    (session : Session Http.Response) :
    ∃ shown, command.run client interrupt session = .ok shown ∧
      Shows shown (client.perform .client call session) := by
  have shows_status := @Shows.of_map WorkflowStatus printed .status
    (fun record text =>
      ⟨by rintro rfl; exact .status record, by rintro ⟨⟩; rfl⟩)
    (by rintro _ _ ⟨⟩)
  have shows_statuses := @Shows.of_map (List WorkflowStatus) printed .statuses
    (fun records text =>
      ⟨by rintro rfl; exact .statuses records, by rintro ⟨⟩; rfl⟩)
    (by rintro _ _ ⟨⟩)
  cases command with
  | playbooks =>
      cases asks
      refine ⟨_, rfl, Shows.of_map ?_ ?_ _⟩
      · exact fun records text =>
          ⟨by rintro rfl; exact .playbooks records, by rintro ⟨⟩; rfl⟩
      · rintro _ _ ⟨⟩
  | enqueue workflowId =>
      cases asks
      exact ⟨_, rfl, shows_status _⟩
  | status executionId =>
      cases asks
      exact ⟨_, rfl, shows_status _⟩
  | list page all =>
      cases all with
      | true =>
          cases asks
          exact ⟨_, rfl, shows_statuses _⟩
      | false =>
          obtain ⟨number, isPage, rfl⟩ := Option.map_eq_some_iff.mp asks
          refine ⟨_, ?_, shows_statuses (client.statusPage number session)⟩
          simp only [run, isPage]
  | action executionId token =>
      cases asks
      refine ⟨_, rfl, Shows.of_map ?_ ?_ _⟩
      · exact fun _ text => ⟨by rintro rfl; exact .done, by rintro ⟨⟩; rfl⟩
      · rintro _ _ ⟨⟩
  | watch executionId =>
      cases asks
      refine ⟨_, rfl, rfl, fun text => ?_⟩
      simp only [Client.perform, Run.map_result]
      cases (client.watch executionId interrupt session).result with
      | none =>
          exact ⟨by rintro ⟨⟩; exact .interrupted, by rintro ⟨⟩; rfl⟩
      | some result =>
          cases result with
          | error error => exact ⟨by rintro ⟨⟩, by rintro ⟨⟩⟩
          | ok record =>
              exact ⟨fun shown => Except.ok.inj shown ▸ .ended record,
                by rintro ⟨⟩; rfl⟩

/-! ## The program -/

/--
A client is made exactly when the numbers and the address of the settings can be
read.
-/
theorem Surroundings.client_cases
    (surroundings : Surroundings)
    (arguments : Arguments) :
    (∃ client url, surroundings.client arguments = .ok client ∧
        Url.ofText (surroundings.apiUrl arguments) = .ok url ∧
        ∀ key ∈ Config.numberKeys,
          Config.Numbered surroundings.allVariables.value? key) ∨
      ∃ failure, surroundings.client arguments = .error failure ∧
        ((∃ key ∈ Config.numberKeys,
            ¬Config.Numbered surroundings.allVariables.value? key) ∨
          ∃ fault, Url.ofText (surroundings.apiUrl arguments) =
            .error fault) := by
  unfold client
  rcases Config.ofLookup_cases surroundings.allVariables.value? with
    ⟨config, isRead, address, numbered⟩ | ⟨fault, isRead, notNumbered⟩
  · rw [isRead]
    have sameAddress :
        (arguments.overrule config).apiUrl = surroundings.apiUrl arguments := by
      rw [Arguments.overrule, apiUrl, address]
      cases arguments.apiUrl <;> rfl
    rcases Http.clientOfConfig_cases surroundings.network
      (arguments.overrule config) with
      ⟨client, url, isMade, isUrl⟩ | ⟨error, fault, notMade, notUrl⟩
    · refine Or.inl ⟨client, url, ?_, sameAddress ▸ isUrl, numbered⟩
      simp [Except.mapError, bind, Except.bind, isMade]
    · refine Or.inr ⟨.noClient error, ?_, Or.inr ⟨fault, sameAddress ▸ notUrl⟩⟩
      simp [Except.mapError, bind, Except.bind, notMade]
  · rw [isRead]
    exact Or.inr ⟨.badSettings fault, rfl, Or.inl notNumbered⟩

/-- What is refused makes no call. -/
theorem Runs.not_refused
    {surroundings : Surroundings}
    {words : List String}
    {run : Run Http.Message Http.Response Client.Answer}
    (runs : Runs surroundings words run) :
    ¬Refused surroundings words := by
  obtain ⟨arguments, client, call, isRead, isMade, asks, -⟩ := runs
  rcases surroundings.client_cases arguments with
    ⟨_, url, -, isUrl, numbered⟩ | ⟨failure, notMade, -⟩
  · intro refused
    cases refused with
    | noArguments unread =>
        rw [isRead] at unread
        cases unread
    | badNumber isNumber isSet invalid =>
        obtain ⟨seconds, valid⟩ := numbered _ isNumber _ isSet
        rw [invalid] at valid
        cases valid
    | badAddress again invalid =>
        cases isRead.symm.trans again
        rw [isUrl] at invalid
        cases invalid
    | noPage again isList =>
        cases isRead.symm.trans again
        rw [Command.call?_eq_none_iff.mpr isList] at asks
        cases asks
  · rw [isMade] at notMade
    cases notMade

/-- There is no second call. -/
theorem Runs.unique
    {surroundings : Surroundings}
    {words : List String}
    {run other : Run Http.Message Http.Response Client.Answer}
    (runs : Runs surroundings words run)
    (others : Runs surroundings words other) :
    run = other := by
  obtain ⟨arguments, client, call, isRead, isMade, asks, rfl⟩ := runs
  obtain ⟨arguments', client', call', isRead', isMade', asks', rfl⟩ := others
  cases isRead.symm.trans isRead'
  cases isMade.symm.trans isMade'
  cases asks.symm.trans asks'
  rfl

/--
Whatever the program is given, it is refused by its arguments, or fails before a
call, or makes a call and ends as that does.
-/
theorem program_cases
    (surroundings : Surroundings)
    (words : List String) :
    (∃ refusal : Refusal, Refused surroundings words ∧
      program surroundings words = refusal.outcome) ∨
    (∃ failure, Refused surroundings words ∧
      program surroundings words = Outcome.failure failure []) ∨
    ∃ run shown, Runs surroundings words run ∧ Shows shown run ∧
      program surroundings words = Outcome.ofRun shown := by
  unfold program
  cases isRead : Arguments.read words with
  | error refusal =>
      exact Or.inl ⟨refusal, .noArguments isRead, rfl⟩
  | ok arguments =>
  refine Or.inr ?_
  simp only [Arguments.perform]
  rcases surroundings.client_cases arguments with
    ⟨client, url, isMade, -, -⟩ |
      ⟨failure, notMade, notNumbered | ⟨fault, notUrl⟩⟩
  · rw [isMade]
    cases asks : arguments.command.call? surroundings.interrupt with
    | none =>
        have isList := Command.call?_eq_none_iff.mp asks
        refine Or.inl ⟨.noPage, .noPage isRead isList, ?_⟩
        rw [isList]
        rfl
    | some call =>
        obtain ⟨shown, isRun, shows⟩ := Command.run_shows asks client
          { replies := surroundings.responses, now := 0 }
        refine Or.inr ⟨_, shown,
          ⟨arguments, client, call, isRead, isMade, asks, rfl⟩, shows, ?_⟩
        rw [Surroundings.interrupt] at isRun
        simp only [isRun]
  · obtain ⟨key, isKey, notNumbered⟩ := notNumbered
    rw [notMade]
    exact Or.inl ⟨failure, .of_not_numbered isKey notNumbered, rfl⟩
  · rw [notMade]
    exact Or.inl ⟨failure, .badAddress isRead notUrl, rfl⟩

/--
Without a command nothing is sent, and output is written only for help and the
version.
-/
theorem Refusal.outcome_spec
    (refusal : Refusal) :
    refusal.outcome.sent = [] ∧
      (refusal.outcome.exitCode ≠ 0 → refusal.outcome.output = "") := by
  cases refusal <;> simp [outcome, Outcome.success]

/--
How the program ends after a call: with all that the call gives, or with no
output.
-/
theorem Shows.ofRun_spec
    {shown : Run Http.Message Http.Response (Except QueueError String)}
    {run : Run Http.Message Http.Response Client.Answer}
    (shows : Shows shown run) :
    (Outcome.ofRun shown).sent = run.sent ∧
      ((Outcome.ofRun shown).exitCode = 0 ∧
          Prints run.result (Outcome.ofRun shown).output ∨
        (Outcome.ofRun shown).exitCode = 1 ∧ (Outcome.ofRun shown).output = "" ∧
          ∀ text, ¬Prints run.result text) := by
  simp only [← shows.prints_iff, ← shows.sent_eq]
  unfold Outcome.ofRun
  cases shown.result with
  | error error => simp [Outcome.failure]
  | ok text => simp [Outcome.success]

/--
The program is refused or makes one call of its client. Refused, it sends
nothing. Whenever it fails it has written no output. Of a call it has sent what
the call has sent; it ends well exactly when the answer is no error, and has
then written just what is shown of the answer.
-/
theorem program_all_or_nothing
    (surroundings : Surroundings)
    (words : List String) :
    (Refused surroundings words → (program surroundings words).sent = []) ∧
    ((program surroundings words).exitCode ≠ 0 →
      (program surroundings words).output = "") ∧
    (¬Refused surroundings words ↔ ∃ run, Runs surroundings words run) ∧
    ∀ run, Runs surroundings words run →
      (program surroundings words).sent = run.sent ∧
      ((program surroundings words).exitCode = 0 ↔
        ∃ text, Prints run.result text) ∧
      ((program surroundings words).exitCode = 0 ∨
        (program surroundings words).exitCode = 1) ∧
      ((program surroundings words).exitCode = 0 →
        Prints run.result (program surroundings words).output) := by
  rcases program_cases surroundings words with
    ⟨refusal, refused, ends⟩ | ⟨failure, refused, ends⟩ |
      ⟨run, shown, runs, shows, ends⟩
  · obtain ⟨unsent, silent⟩ := refusal.outcome_spec
    rw [ends]
    refine ⟨fun _ => unsent, silent, ?_,
      fun run runs => (runs.not_refused refused).elim⟩
    exact ⟨fun notRefused => (notRefused refused).elim,
      fun ⟨run, runs⟩ => runs.not_refused⟩
  · rw [ends]
    refine ⟨fun _ => rfl, fun _ => rfl, ?_,
      fun run runs => (runs.not_refused refused).elim⟩
    exact ⟨fun notRefused => (notRefused refused).elim,
      fun ⟨run, runs⟩ => runs.not_refused⟩
  · obtain ⟨sent, ⟨exits, prints⟩ | ⟨exits, silent, notPrints⟩⟩ :=
      shows.ofRun_spec
    · rw [ends, exits]
      refine ⟨fun refused => (runs.not_refused refused).elim,
        fun notZero => (notZero rfl).elim,
        ⟨fun _ => ⟨run, runs⟩, fun _ => runs.not_refused⟩,
        fun other others => ?_⟩
      cases runs.unique others
      exact ⟨sent, ⟨fun _ => ⟨_, prints⟩, fun _ => rfl⟩, Or.inl rfl,
        fun _ => prints⟩
    · rw [ends, exits]
      refine ⟨fun refused => (runs.not_refused refused).elim, fun _ => silent,
        ⟨fun _ => ⟨run, runs⟩, fun _ => runs.not_refused⟩,
        fun other others => ?_⟩
      cases runs.unique others
      exact ⟨sent,
        ⟨by rintro ⟨⟩, fun ⟨text, prints⟩ => (notPrints text prints).elim⟩,
        Or.inr rfl, by rintro ⟨⟩⟩

end CommandLine

end WorkflowQueue
