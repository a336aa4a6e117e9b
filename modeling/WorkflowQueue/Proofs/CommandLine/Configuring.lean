import WorkflowQueue.Proofs.CommandLine.Outcomes
import WorkflowQueue.Proofs.CommandLine.Rereading
import WorkflowQueue.Proofs.Variables

namespace WorkflowQueue

/-!
# Options and variables

The address and the token come from options or from variables. Options are read
first and overrule the variables, so that these have no influence once both
options are given; and a program that finds in its variables what the options
say does the same without them, as long as the token is not blank. Nothing else
may depend on the two variables: a file that makes another variable of them
passes their values on.
-/

namespace Config

/-- The variables that options overrule. -/
def overruledKeys : List String := [apiUrlKey, apiTokenKey]

/-- Options overrule no number. -/
theorem not_mem_overruledKeys
    {key : String}
    (isNumber : key ∈ numberKeys) :
    key ∉ overruledKeys := by
  revert isNumber key
  decide

/-- Settings are numbers with an address and a token. -/
theorem ofLookup_eq_map
    {lookup numbers : String → Option String}
    (same : ∀ key ∈ numberKeys, lookup key = numbers key) :
    ofLookup lookup =
      (ofLookup numbers).map fun config =>
        { config with
          apiUrl := (lookup apiUrlKey).getD defaultApiUrl
          apiToken := (lookup apiTokenKey).filter fun token =>
            !Text.isAllBlank token.toList } := by
  have sameSeconds : ∀ key ∈ numberKeys, ∀ default,
      readSeconds lookup key default = readSeconds numbers key default := by
    intro key isNumber default
    unfold readSeconds
    rw [same key isNumber]
  unfold ofLookup
  rw [sameSeconds requestTimeoutKey (by decide),
    sameSeconds pollIntervalKey (by decide),
    sameSeconds pollMaxIntervalKey (by decide)]
  cases readSeconds numbers requestTimeoutKey defaultTimeoutSeconds with
  | error fault => rfl
  | ok timeout =>
  cases readSeconds numbers pollIntervalKey
    Backoff.standard.initialDelay.seconds with
  | error fault => rfl
  | ok initial =>
  cases readSeconds numbers pollMaxIntervalKey
    Backoff.standard.maxDelay.seconds with
  | error fault => rfl
  | ok limit => rfl

end Config

namespace CommandLine

open Given

/-! ## Settings -/

/-- The settings with which a client is made. -/
def Surroundings.settings
    (surroundings : Surroundings)
    (arguments : Arguments) :
    Except Config.InvalidNumber Config :=
  (Config.ofLookup surroundings.allVariables.value?).map arguments.overrule

/-- A client is made of its settings and the network. -/
theorem Surroundings.client_eq
    (surroundings : Surroundings)
    (arguments : Arguments) :
    surroundings.client arguments =
      (surroundings.settings arguments).mapError .badSettings >>= fun config =>
        (Http.clientOfConfig surroundings.network config).mapError
          .noClient := by
  unfold client settings
  cases Config.ofLookup surroundings.allVariables.value? <;>
    simp only [Except.map, Except.mapError, bind, Except.bind]

/--
Settings with an address and a token, and with their numbers from some
variables.
-/
def settingsOf
    (numbers : String → Option String)
    (apiUrl token : String) :
    Except Config.InvalidNumber Config :=
  (Config.ofLookup numbers).map fun config =>
    { config with apiUrl := apiUrl, apiToken := some token }

/-- Options leave nothing of the variables but the numbers. -/
theorem Surroundings.settings_of_options
    {surroundings : Surroundings}
    {numbers : String → Option String}
    (sameNumbers :
      ∀ key ∈ Config.numberKeys, surroundings.allVariables.value? key =
        numbers key)
    (apiUrl token : String)
    (command : Command) :
    surroundings.settings
        { apiUrl := some apiUrl, token := some token, command := command } =
      settingsOf numbers apiUrl token := by
  unfold settings settingsOf
  rw [Config.ofLookup_eq_map sameNumbers]
  cases Config.ofLookup numbers <;> rfl

/--
Without options the settings are those of the variables, unless the token is
blank.
-/
theorem Surroundings.settings_of_variables
    {surroundings : Surroundings}
    {apiUrl token : String}
    (isAddress :
      surroundings.allVariables.value? Config.apiUrlKey = some apiUrl)
    (isToken : surroundings.allVariables.value? Config.apiTokenKey = some token)
    (notBlank : Text.isAllBlank token.toList = false)
    (command : Command) :
    surroundings.settings
        { apiUrl := none, token := none, command := command } =
      settingsOf surroundings.allVariables.value? apiUrl token := by
  have asRead :=
    @Config.ofLookup_eq_map surroundings.allVariables.value? _ fun _ _ => rfl
  simp only [isAddress, isToken, Option.getD_some, Option.filter_some, notBlank,
    Bool.not_false, ↓reduceIte] at asRead
  unfold settings settingsOf
  refine Eq.trans ?_ asRead
  cases Config.ofLookup surroundings.allVariables.value? <;> rfl

/-! ## Surroundings that differ in two variables -/

/--
Surroundings that differ in the variables that options overrule, and in nothing
else.
-/
structure AlikeApart
    (first second : Surroundings) : Prop where
  environment :
    Variables.AgreeApart Config.overruledKeys first.environment
      second.environment
  variableFile : first.variableFile = second.variableFile
  network : first.network = second.network
  responses : first.responses = second.responses
  interruptOnRequest : first.interruptOnRequest = second.interruptOnRequest

/-- No other variable is made of the variables that options overrule. -/
def Surroundings.IsIndependent
    (surroundings : Surroundings) :
    Prop :=
  ∀ text ∈ surroundings.variableFile,
    Variables.IndependentFile Config.overruledKeys text

/-- A variable that is set outside the file keeps its value. -/
theorem Surroundings.value?_allVariables
    {surroundings : Surroundings}
    {name value : String}
    (isSet : surroundings.environment.value? name = some value) :
    surroundings.allVariables.value? name = some value := by
  unfold allVariables
  split
  · exact isSet
  · exact Variables.value?_defineLines isSet _

section Alike

variable
  {flagged preset : Surroundings}
  (alike : AlikeApart flagged preset)

include alike

/--
Variables that differ apart from the file differ in the same ones with it.
-/
theorem AlikeApart.allVariables
    (independent : preset.IsIndependent) :
    Variables.AgreeApart Config.overruledKeys flagged.allVariables
      preset.allVariables := by
  unfold Surroundings.allVariables
  rw [alike.variableFile]
  cases isFile : preset.variableFile with
  | none => exact alike.environment
  | some text => exact alike.environment.defineFile (independent text isFile)

/-- What a command does depends on its settings, not on where they come from. -/
theorem AlikeApart.perform_eq
    {arguments others : Arguments}
    (sameCommand : arguments.command = others.command)
    (sameSettings : flagged.settings arguments = preset.settings others) :
    arguments.perform flagged = others.perform preset := by
  unfold Arguments.perform
  rw [Surroundings.client_eq, Surroundings.client_eq, sameSettings, sameCommand,
    alike.network, alike.responses, alike.interruptOnRequest]

end Alike

/-! ## Words without options -/

theorem ofChars_letters
    {text letters : List Char}
    (isLetters : Word.ofChars text = .letters letters) :
    ∃ letter rest, letters = letter :: rest := by
  unfold Word.ofChars at isLetters
  split at isLetters <;> cases isLetters
  exact ⟨_, _, rfl⟩

/--
A long option of the program that does not fail is the address or the token.
-/
theorem readLong_program
    {name : List Char}
    {value : Option (List Char)}
    {result : Given}
    (isRead : nothing.readLong .program name value = .ok result) :
    ¬result.Unaddressed := by
  intro unaddressed
  unfold readLong at isRead
  cases isSwitch : Level.program.named? name with
  | none =>
      rw [isSwitch] at isRead
      cases isRead
  | some switch =>
      have member := List.mem_of_find?_eq_some isSwitch
      simp only [Level.switches, List.mem_cons, List.not_mem_nil,
        or_false] at member
      rw [isSwitch] at isRead
      rcases member with rfl | rfl | rfl | rfl <;> cases value
      · cases isRead
        cases unaddressed.pending _ rfl
      · cases isRead
        cases unaddressed.apiUrl
      · cases isRead
        cases unaddressed.pending _ rfl
      · cases isRead
        cases unaddressed.token
      all_goals cases isRead

/-- The letters of the program stand for help and the version only. -/
theorem readLetters_program
    {letter : Char}
    {rest : List Char}
    {result : Given} :
    readLetters .program (letter :: rest) nothing ≠ .ok result := by
  cases isSwitch : Level.program.lettered? letter with
  | none =>
      rw [readLetters_of_none isSwitch]
      rintro ⟨⟩
  | some switch =>
      have isLettered := List.find?_some isSwitch
      have member := List.mem_of_find?_eq_some isSwitch
      simp only [Level.switches, List.mem_cons, List.not_mem_nil,
        or_false] at member
      rcases member with rfl | rfl | rfl | rfl
      · cases of_decide_eq_true isLettered
      · cases of_decide_eq_true isLettered
      all_goals
        rw [readLetters_of_flag isSwitch]
        rintro ⟨⟩

/-- A word of the program that does not fail gives the address or the token. -/
theorem readWord_program
    {word : String}
    {result : Given}
    (isRead : nothing.readWord .program word = .ok result) :
    ¬result.Unaddressed := by
  unfold readWord at isRead
  split at isRead
  · exact readLong_program isRead
  · next letters isLetters =>
      obtain ⟨letter, rest, rfl⟩ := ofChars_letters isLetters
      exact (readLetters_program isRead).elim
  · cases isRead

/-- A word that chooses a command is the name of the command. -/
theorem eq_word_of_topicAt
    {given : Given}
    {word : String}
    {name : CommandName}
    (isName : topicAt .program given word = some (.level (.command name))) :
    word = name.word := by
  unfold topicAt at isName
  dsimp only at isName
  split at isName
  · cases isName
  · unfold Topic.ofWord? at isName
    split at isName
    · cases isName
    · obtain ⟨found, isFound, same⟩ := Option.map_eq_some_iff.mp isName
      cases same
      unfold CommandName.ofWord? at isFound
      have isWord := List.find?_some isFound
      exact (of_decide_eq_true isWord).symm

/--
Words that give neither an address nor a token begin with the name of their
command.
-/
theorem readLevel_program
    {words : List String}
    {given : Given}
    {choice : Choice}
    (isRead : readLevel .program words nothing = .ok (given, some choice))
    (unaddressed : given.Unaddressed) :
    words = choice.name.word :: choice.rest := by
  cases words with
  | nil =>
      cases isRead
  | cons word rest =>
      rcases topicAt_cases isRead with noTopic | ⟨name, isName⟩
      · exfalso
        by_cases isSeparator : Word.ofChars word.toList = .separator
        · rw [readLevel_of_separator noTopic isSeparator] at isRead
          cases isPlaced : nothing.placeAll .program rest with
          | error refusal =>
              rw [isPlaced] at isRead
              cases isRead
          | ok placed =>
              rw [isPlaced] at isRead
              cases isRead
        · rw [readLevel_of_word noTopic isSeparator] at isRead
          obtain ⟨following, isWord, isRest⟩ := Except.bind_eq_ok_iff.mp isRead
          exact readWord_program isWord
            (readLevel_configured isRest unaddressed).1
      · rw [readLevel_of_name isName] at isRead
        cases isRead
        rw [eq_word_of_topicAt isName]

/-! ## Words with options -/

/-- The words of a command with options around their first word. -/
def Arguments.addedTo
    (arguments : Arguments)
    (placement : Placement) :
    List String →
    List String
  | [] => []
  | name :: rest =>
      arguments.optionWords placement .before ++
        name :: (arguments.optionWords placement .after ++ rest)

theorem commandOf_name
    {name : CommandName}
    {given : Given}
    {command : Command}
    (isCommand : commandOf name given = .ok command) :
    command.name = name := by
  unfold commandOf at isCommand
  split at isCommand
  case h_4 =>
    split at isCommand <;> cases isCommand
    rfl
  all_goals cases isCommand
  all_goals rfl

/-- Words that are read without an address and a token are read with them. -/
theorem Arguments.read_addedTo
    {words : List String}
    {command : Command}
    (isRead :
      Arguments.read words =
        .ok { apiUrl := none, token := none, command := command })
    (apiUrl token : Option String)
    (placement : Placement) :
    let arguments : Arguments :=
      { apiUrl := apiUrl, token := token, command := command }
    Arguments.read (arguments.addedTo placement words) = .ok arguments := by
  intro arguments
  obtain ⟨⟨given, choice?⟩, isLevel, isCommand⟩ :=
    Except.bind_eq_ok_iff.mp isRead
  cases choice? with
  | none =>
      obtain ⟨settled, -, refused⟩ := Except.bind_eq_ok_iff.mp isCommand
      cases refused
  | some choice =>
      obtain ⟨⟨inner, made⟩, isInner, isOuter⟩ :=
        Except.bind_eq_ok_iff.mp isCommand
      obtain ⟨outer, isSettled, isAll⟩ := Except.bind_eq_ok_iff.mp isOuter
      simp only [pure, Except.pure, Except.ok.injEq, Arguments.mk.injEq,
        Option.or_eq_none_iff] at isAll
      obtain ⟨⟨noInnerUrl, noOuterUrl⟩, ⟨noInnerToken, noOuterToken⟩, rfl⟩ :=
        isAll
      obtain ⟨_, _, -, innerSettled, isMade⟩ := readCommand_eq_ok_iff.mp isInner
      have innerUnaddressed : inner.Unaddressed :=
        ⟨noInnerUrl, noInnerToken, by simp [settle_pending innerSettled]⟩
      have outerUnaddressed : outer.Unaddressed :=
        ⟨noOuterUrl, noOuterToken, by simp [settle_pending isSettled]⟩
      have shape :=
        readLevel_program isLevel
          (settle_indifferent _ _ isSettled outerUnaddressed).1
      have sameName : made.name = choice.name := commandOf_name isMade
      subst shape
      rw [Arguments.addedTo, ← sameName]
      refine @read_of_readCommand arguments choice.rest inner ?_
        innerUnaddressed placement
      rw [sameName]
      exact isInner

/-! ## The program -/

theorem program_of_read
    {words : List String}
    {arguments : Arguments}
    (isRead : Arguments.read words = .ok arguments)
    (surroundings : Surroundings) :
    program surroundings words = arguments.perform surroundings := by
  unfold program
  rw [isRead]

/--
With both options the program does the same whatever the two variables are, even
if a token is blank. Without the options it does the same once the variables
have their values, unless the token is blank: a blank variable counts as not
set, while a blank option does not.
-/
theorem program_addedTo
    {flagged preset : Surroundings}
    (alike : AlikeApart flagged preset)
    (independent : preset.IsIndependent)
    {words : List String}
    {command : Command}
    (isRead :
      Arguments.read words =
        .ok { apiUrl := none, token := none, command := command })
    (apiUrl token : String)
    (placement : Placement) :
    let options : Arguments :=
      { apiUrl := some apiUrl, token := some token, command := command }
    program flagged (options.addedTo placement words) =
        program preset (options.addedTo placement words) ∧
      (preset.environment.value? Config.apiUrlKey = some apiUrl →
        preset.environment.value? Config.apiTokenKey = some token →
          Text.isAllBlank token.toList = false →
            program flagged (options.addedTo placement words) =
              program preset words) := by
  intro options
  have withOptions :=
    Arguments.read_addedTo isRead (some apiUrl) (some token) placement
  have sameNumbers : ∀ key ∈ Config.numberKeys,
      flagged.allVariables.value? key = preset.allVariables.value? key :=
    fun key isNumber =>
      alike.allVariables independent key (Config.not_mem_overruledKeys isNumber)
  have fromOptions :=
    Surroundings.settings_of_options sameNumbers apiUrl token command
  rw [program_of_read withOptions, program_of_read withOptions,
    program_of_read isRead]
  constructor
  · refine alike.perform_eq rfl (fromOptions.trans ?_)
    exact
      (Surroundings.settings_of_options (fun _ _ => rfl) apiUrl token
        command).symm
  · intro isAddress isToken notBlank
    refine alike.perform_eq rfl (fromOptions.trans ?_)
    exact
      (Surroundings.settings_of_variables
        (Surroundings.value?_allVariables isAddress)
        (Surroundings.value?_allVariables isToken) notBlank command).symm

/-- Surroundings whose file takes the value of one variable from another one. -/
def exampleSurroundings
    (environment : Variables) :
    Surroundings where
  environment := environment
  variableFile := some "WFQUEUE_REQUEST_TIMEOUT_SECS=$SECONDS\n"
  network := .reachable
  responses := [{ status := 404, headers := [], body := [], earlyEnd := none }]
  interruptOnRequest := none

/--
The token before the command, the address after it, and another token in a
variable.
-/
theorem program_addedTo_status :
    program
        (exampleSurroundings [("SECONDS", "3"), ("WFQUEUE_API_TOKEN", "other")])
        ["--token=secret", "status", "--api-url=http://host/api", "e"] =
      program
        (exampleSurroundings [
          ("SECONDS", "3"),
          ("WFQUEUE_API_TOKEN", "secret"),
          ("WFQUEUE_API_URL", "http://host/api")
        ])
        ["status", "e"] := by
  refine
    (@program_addedTo _ _ ?_ ?_ ["status", "e"] (.status "e") rfl
      "http://host/api" "secret"
      { apiUrl := .after, token := .before, tokenFirst := true }).2 ?_ ?_ ?_
  · refine ⟨fun name notIn => ?_, rfl, rfl, rfl, rfl⟩
    simp only [Config.overruledKeys, Config.apiUrlKey, Config.apiTokenKey,
      List.mem_cons, List.not_mem_nil, or_false, not_or] at notIn
    simp [exampleSurroundings, Variables.value?, List.lookup_cons,
      beq_eq_false_iff_ne.mpr notIn.1, beq_eq_false_iff_ne.mpr notIn.2]
  · rintro text ⟨⟩
    exact Variables.independentFile_of_namesAskedFor (by decide +kernel)
  · rfl
  · rfl
  · decide

/--
Surroundings out of reach of the network, with an address and a blank token or
without.
-/
def blankSurroundings
    (environment : Variables) :
    Surroundings where
  environment := environment
  variableFile := none
  network := .unreachable
  responses := [{
    status := 200
    headers := []
    body := "[]".toUTF8.toList
    earlyEnd := none
  }]
  interruptOnRequest := none

/--
A blank token that no header can hold is refused as an option and ignored as a
variable.
-/
theorem blank_token_differs :
    program (blankSurroundings [])
        ["playbooks", "--api-url=http://127.0.0.1/api", "--token=\n"] ≠
      program
        (blankSurroundings
          [("WFQUEUE_API_URL", "http://127.0.0.1/api"),
            ("WFQUEUE_API_TOKEN", "\n")])
        ["playbooks"] := by
  intro same
  have sameErrors := congrArg Outcome.errors same
  revert sameErrors
  decide +kernel

end CommandLine

end WorkflowQueue
