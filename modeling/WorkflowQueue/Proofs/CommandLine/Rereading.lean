import WorkflowQueue.CommandLine.Writer
import WorkflowQueue.Proofs.CommandLine.Indifference
import WorkflowQueue.Proofs.Digits

namespace WorkflowQueue.CommandLine

/-!
# Reading a written command line

What a request for a command is written as is read as that request, wherever its
address and its token are placed and whatever texts it holds.
`read_of_readCommand` says so of any words that make the request's command,
since the two options may stand in front of them, and `readCommand_words` of the
words that the command is written with.
-/

open Given

/-! ## Written options -/

/--
An option with its value attached begins with dashes and goes on with its long
name.
-/
theorem toList_word
    (setting : Setting)
    (value : String) :
    (setting.word value).toList =
      '-' :: '-' :: ((Switch.setting setting).long.toList ++ '=' ::
        value.toList) := by
  simp [Setting.word]

/-- The name of an option ends at the first equals sign. -/
theorem splitAtEquals_append
    (name value : List Char)
    (noEquals : '=' ∉ name) :
    Word.splitAtEquals (name ++ '=' :: value) = (name, some value) := by
  induction name with
  | nil =>
      rfl
  | cons c rest inductionHypothesis =>
      simp only [List.mem_cons, not_or] at noEquals
      rw [List.cons_append, Word.splitAtEquals, inductionHypothesis noEquals.2]
      exact fun isEquals => noEquals.1 isEquals.symm

/-- Two dashes and more are an option by its long name. -/
theorem ofChars_dashes
    {text : List Char}
    (notEmpty : text ≠ []) :
    Word.ofChars ('-' :: '-' :: text) =
      .long (Word.splitAtEquals text).1 (Word.splitAtEquals text).2 := by
  cases text with
  | nil => exact (notEmpty rfl).elim
  | cons c rest => rfl

theorem ofChars_word
    (setting : Setting)
    (value : String) :
    Word.ofChars (setting.word value).toList =
      .long (Switch.setting setting).long.toList (some value.toList) := by
  have noEquals : '=' ∉ (Switch.setting setting).long.toList := by
    cases setting <;> decide
  rw [toList_word, ofChars_dashes (by simp), splitAtEquals_append _ _ noEquals]

/--
A word that begins with a dash is neither a command nor a request for help.
-/
theorem topicAt_of_dash
    {word : String}
    {rest : List Char}
    (level : Level)
    (given : Given)
    (dash : word.toList = '-' :: rest) :
    topicAt level given word = none := by
  have noCommand : ∀ name : CommandName, name.word ≠ word := by
    rintro name rfl
    cases name <;> cases dash
  have noHelp : word ≠ Topic.helpWord := by
    rintro rfl
    cases dash
  have noWord : CommandName.ofWord? word = none := by
    simp [CommandName.ofWord?, noCommand]
  cases level with
  | program =>
      simp [topicAt, Topic.ofWord?, noHelp, noWord]
  | command name =>
      rfl

/-- A written option with a value is recorded as it is met. -/
theorem readLevel_word
    {level : Level}
    {given : Given}
    {setting : Setting}
    (isOption :
      level.named? (Switch.setting setting).long.toList =
        some (.setting setting))
    (nothingPending : given.pending = none)
    (value : String)
    (rest : List String) :
    readLevel level (setting.word value :: rest) given =
      given.record setting value >>= readLevel level rest := by
  have isLong := ofChars_word setting value
  have notSeparator :
      Word.ofChars (setting.word value).toList ≠ .separator := by
    simp [isLong]
  rw [readLevel_of_word
    (topicAt_of_dash level given (toList_word setting value)) notSeparator]
  simp only [readWord, isLong, readLong, isOption, attach,
    settle_of_none nothingPending, String.ofList_toList]
  rfl

/-- Every level has the address and the token among its options. -/
theorem named?_of_ne_page
    {setting : Setting}
    (notPage : setting ≠ .page)
    (level : Level) :
    level.named? (Switch.setting setting).long.toList =
      some (.setting setting) := by
  cases setting with
  | page =>
      exact (notPage rfl).elim
  | _ =>
      cases level with
      | program => decide
      | command name => cases name <;> decide

theorem named?_page :
    (Level.command .list).named? (Switch.setting .page).long.toList =
      some (.setting .page) := by
  decide

/-- What stands of an option at one side of a command's name. -/
def placed
    (value : Option String)
    (place side : Side) :
    Option String :=
  if place = side then value else none

/-- An option stands at one side. -/
theorem placed_or_placed
    (value : Option String)
    (place : Side) :
    (placed value place .after).or (placed value place .before) = value := by
  cases place <;> simp [placed]

/-- An option that may be written at this side is recorded if it is. -/
theorem readLevel_placed
    {level : Level}
    {given : Given}
    {setting : Setting}
    (recording : Option String → Given)
    (isOption :
      level.named? (Switch.setting setting).long.toList =
        some (.setting setting))
    (nothingPending : given.pending = none)
    (absent : recording none = given)
    (recorded :
      ∀ value, given.record setting value = .ok (recording (some value)))
    (value : Option String)
    (place side : Side)
    (rest : List String) :
    readLevel level (optionWords setting value place side ++ rest) given =
      readLevel level rest (recording (placed value place side)) := by
  by_cases here : place = side
  · cases value with
    | none =>
        simp [optionWords, placed, here, absent]
    | some value =>
        simp only [optionWords, placed, here, ↓reduceIte, Option.map_some,
          Option.toList_some, List.singleton_append]
        rw [readLevel_word isOption nothingPending, recorded]
        rfl
  · simp [optionWords, placed, here, absent]

section OptionWords

variable
  (level : Level)
  {given : Given}
  (nothingPending : given.pending = none)
  (value : Option String)
  (place side : Side)
  (rest : List String)

include nothingPending

theorem readLevel_apiUrl
    (fresh : given.apiUrl = none) :
    readLevel level (optionWords .apiUrl value place side ++ rest) given =
      readLevel level rest
        (given.configured (placed value place side) given.token) := by
  refine readLevel_placed (fun value => given.configured value given.token)
    (named?_of_ne_page (by decide) level) nothingPending ?_ ?_ value
      place side rest
  · rw [configured, ← fresh]
  · simp [record, configured, fresh]

theorem readLevel_token
    (fresh : given.token = none) :
    readLevel level (optionWords .token value place side ++ rest) given =
      readLevel level rest
        (given.configured given.apiUrl (placed value place side)) := by
  refine readLevel_placed (fun value => given.configured given.apiUrl value)
    (named?_of_ne_page (by decide) level) nothingPending ?_ ?_ value
      place side rest
  · rw [configured, ← fresh]
  · simp [record, configured, fresh]

end OptionWords

/--
The options written at one side are what has been given when the rest is read.
-/
theorem readLevel_optionWords
    (level : Level)
    (arguments : Arguments)
    (placement : Placement)
    (side : Side)
    (rest : List String) :
    readLevel level (arguments.optionWords placement side ++ rest) nothing =
      readLevel level rest
        (nothing.configured
          (placed arguments.apiUrl placement.apiUrl side)
          (placed arguments.token placement.token side)) := by
  unfold Arguments.optionWords
  cases placement.tokenFirst with
  | true =>
      simp only [↓reduceIte, List.append_assoc]
      rw [readLevel_token level rfl _ _ _ _ rfl,
        readLevel_apiUrl level rfl _ _ _ _ rfl]
      rfl
  | false =>
      simp only [Bool.false_eq_true, ↓reduceIte, List.append_assoc]
      rw [readLevel_apiUrl level rfl _ _ _ _ rfl,
        readLevel_token level rfl _ _ _ _ rfl]
      rfl

/-! ## Commands -/

/-- Making a command does not look at the address and the token. -/
theorem commandOf_configured
    (name : CommandName)
    (given : Given)
    (apiUrl token : Option String) :
    commandOf name (given.configured apiUrl token) = commandOf name given := by
  rcases given with ⟨_, _, page, all, operands, pending⟩
  rfl

/-- The name of a command is met at the level of the program. -/
theorem topicAt_word
    {given : Given}
    (nothingPending : given.pending = none)
    (name : CommandName) :
    topicAt .program given name.word = some (.level (.command name)) := by
  have noHelp : name.word ≠ Topic.helpWord := by
    cases name <;> decide
  simp [topicAt, isAwaiting, nothingPending, Topic.ofWord?, noHelp,
    CommandName.ofWord?_word]

/-- What reading the words of a command consists of. -/
theorem readCommand_eq_ok_iff
    {choice : Choice}
    {settled : Given}
    {command : Command} :
    readCommand choice = .ok (settled, command) ↔
      ∃ given next,
        readLevel (.command choice.name) choice.rest nothing =
            .ok (given, next) ∧
          given.settle = .ok settled ∧
          commandOf choice.name settled = .ok command := by
  simp only [readCommand, Except.bind_eq_ok_iff, Prod.exists]
  constructor
  · rintro ⟨given, next, isRead, settled', isSettled, command',
      isCommand, isPair⟩
    cases isPair
    exact ⟨given, next, isRead, isSettled, isCommand⟩
  · rintro ⟨given, next, isRead, isSettled, isCommand⟩
    exact ⟨given, next, isRead, settled, isSettled, command, isCommand, rfl⟩

/--
The words of a command that give neither an address nor a token make the same
command after the options that are written behind its name.
-/
theorem readCommand_optionWords
    {name : CommandName}
    {rest : List String}
    {inner : Given}
    {command : Command}
    (isRead : readCommand { name := name, rest := rest } = .ok (inner, command))
    (unaddressed : inner.Unaddressed)
    (arguments : Arguments)
    (placement : Placement) :
    readCommand
        {
          name := name
          rest := arguments.optionWords placement .after ++ rest
        } =
      .ok
        (inner.configured
          (placed arguments.apiUrl placement.apiUrl .after)
          (placed arguments.token placement.token .after),
          command) := by
  obtain ⟨given, next, isLevel, isSettled, isCommand⟩ :=
    readCommand_eq_ok_iff.mp isRead
  obtain ⟨givenUnaddressed, settleSame⟩ :=
    settle_indifferent _ _ isSettled unaddressed
  obtain ⟨-, levelSame⟩ := readLevel_configured isLevel givenUnaddressed
  refine readCommand_eq_ok_iff.mpr ⟨_, next, ?_, settleSame _ _, ?_⟩
  · exact (readLevel_optionWords _ arguments placement .after rest).trans
      (levelSame _ _)
  · exact (commandOf_configured _ _ _ _).trans isCommand

/--
A request is read from its options, wherever they are placed, and any words that
make its command and give neither an address nor a token.
-/
theorem read_of_readCommand
    {arguments : Arguments}
    {rest : List String}
    {inner : Given}
    (isRead :
      readCommand { name := arguments.command.name, rest := rest } =
        .ok (inner, arguments.command))
    (unaddressed : inner.Unaddressed)
    (placement : Placement) :
    Arguments.read
        (arguments.optionWords placement .before ++
          arguments.command.name.word ::
            (arguments.optionWords placement .after ++ rest)) =
      .ok arguments := by
  have isCommand :=
    readCommand_optionWords isRead unaddressed arguments placement
  unfold Arguments.read
  rw [readLevel_optionWords, readLevel_of_name (topicAt_word rfl _)]
  refine Except.bind_eq_ok_iff.mpr ⟨_, rfl, ?_⟩
  refine Except.bind_eq_ok_iff.mpr ⟨_, isCommand, ?_⟩
  refine Except.bind_eq_ok_iff.mpr ⟨_, settle_of_none rfl, ?_⟩
  simp only [configured, placed_or_placed]
  rfl

/-! ## Written commands -/

namespace Command

/-- What the options of a command itself give. -/
def givenByOptions :
    Command →
    Given
  | .list _ true => { nothing with all := true }
  | .list page false => { nothing with page := some page }
  | _ => nothing

/-- What all words of a command give. -/
def given
    (command : Command) :
    Given :=
  { command.givenByOptions with operands := command.operands }

theorem givenByOptions_operands
    (command : Command) :
    command.givenByOptions.operands = [] := by
  unfold givenByOptions
  split <;> rfl

theorem givenByOptions_pending
    (command : Command) :
    command.givenByOptions.pending = none := by
  unfold givenByOptions
  split <;> rfl

theorem given_unaddressed
    (command : Command) :
    command.given.Unaddressed := by
  unfold given givenByOptions
  split <;> exact ⟨rfl, rfl, by simp [nothing]⟩

/-- A command has a place for each of its operands. -/
theorem length_operands
    (command : Command) :
    command.operands.length = (Level.command command.name).places.length := by
  cases command <;> rfl

end Command

/-- The number of a page is read back from its digits. -/
theorem page?_text
    (page : UInt32) :
    page? (Decimal.text page.toNat) = some page := by
  have isNumber := Decimal.value?_text page.toNat
  have digits : Decimal.AllDigits (Decimal.text page.toNat) :=
    Decimal.allDigits_toDigits _
  have unsigned : Decimal.unsigned? Decimal.limit32 (Decimal.text page.toNat) =
      some page.toNat := by
    unfold Decimal.unsigned?
    split
    · next isPlus =>
        rw [isPlus] at digits
        exact absurd (digits '+' List.mem_cons_self) (by decide)
    · simp [isNumber, Decimal.limit32, page.toNat_lt]
  unfold page?
  split
  · next isMinus =>
      rw [isMinus] at digits
      exact absurd (digits '-' List.mem_cons_self) (by decide)
  · simp [unsigned]

/-- Words find their places after the separator as long as there are any. -/
theorem placeAll_of_length_le
    {level : Level}
    {given : Given}
    {words : List String}
    (nothingPending : given.pending = none)
    (fits : given.operands.length + words.length ≤ level.places.length) :
    given.placeAll level words =
      .ok { given with operands := given.operands ++ words } := by
  induction words generalizing given with
  | nil =>
      simp [placeAll]
  | cons word rest inductionHypothesis =>
      simp only [List.length_cons] at fits
      have hasPlace : given.operands.length < level.places.length := by
        omega
      have isPlaced : given.place level true word =
          .ok { given with operands := given.operands ++ [word] } := by
        simp only [place, hasPlace, ↓reduceIte, settle_of_none nothingPending]
        rfl
      rw [placeAll_cons]
      refine Except.bind_eq_ok_iff.mpr ⟨_, isPlaced, ?_⟩
      refine Eq.trans
        (@inductionHypothesis
          { given with operands := given.operands ++ [word] }
          nothingPending ?_) ?_
      · simp only [List.length_append, List.length_singleton]
        omega
      · simp

/-- The options of a command itself are read as what they give. -/
theorem readLevel_commandOptions
    (command : Command)
    (rest : List String) :
    readLevel (.command command.name) (command.optionWords ++ rest) nothing =
      readLevel (.command command.name) rest command.givenByOptions := by
  cases command with
  | list page all =>
      cases all with
      | true =>
          exact readLevel_of_word rfl (by decide)
      | false =>
          have recorded :
              nothing.record .page (String.ofList (Decimal.text page.toNat)) =
              .ok { nothing with page := some page } := by
            simp [record, nothing, page?_text]
          refine (readLevel_word named?_page rfl _ rest).trans ?_
          rw [recorded]
          rfl
  | _ =>
      rfl

/--
The operands of a command are read after the separator, however they are
written.
-/
theorem readLevel_operands
    {given : Given}
    (command : Command)
    (noOperands : given.operands = [])
    (nothingPending : given.pending = none) :
    readLevel (.command command.name) ("--" :: command.operands) given =
      .ok ({ given with operands := command.operands }, none) := by
  have fits : given.operands.length + command.operands.length ≤
      (Level.command command.name).places.length := by
    simp [noOperands, command.length_operands]
  rw [readLevel_of_separator rfl (by decide),
    placeAll_of_length_le nothingPending fits, noOperands]
  rfl

/--
What is given makes the command again. All pages stand for the command only with
the default page, since a page and all of them cannot be asked for together.
-/
theorem commandOf_given
    {command : Command}
    (canonical : ∀ page, command = .list page true → page = 1) :
    commandOf command.name command.given = .ok command := by
  cases command with
  | list page all =>
      cases all with
      | true =>
          cases canonical page rfl
          rfl
      | false =>
          rfl
  | _ =>
      rfl

/-- The written form of a command makes that command. -/
theorem readCommand_words
    {command : Command}
    (canonical : ∀ page, command = .list page true → page = 1) :
    readCommand
        {
          name := command.name
          rest := command.optionWords ++ "--" :: command.operands
        } =
      .ok (command.given, command) := by
  refine readCommand_eq_ok_iff.mpr ⟨command.given, none, ?_, ?_,
    commandOf_given canonical⟩
  · rw [readLevel_commandOptions]
    exact readLevel_operands command command.givenByOptions_operands
      command.givenByOptions_pending
  · exact settle_of_none command.givenByOptions_pending

/--
A request is read back from its written form, wherever its address and its token
are placed and whatever texts it holds.
-/
theorem Arguments.read_words
    (arguments : Arguments)
    (placement : Placement)
    (canonical : ∀ page, arguments.command = .list page true → page = 1) :
    Arguments.read (arguments.words placement) = .ok arguments := by
  unfold Arguments.words
  rw [List.append_assoc]
  exact read_of_readCommand (readCommand_words canonical)
    arguments.command.given_unaddressed placement

/--
A request whose texts look like a separator, an option and a command is read
back.
-/
theorem Arguments.read_words_hostile :
    Arguments.read [
        "--token=--", "action", "--api-url=", "--", "--help", "list"
      ] =
      .ok {
        apiUrl := some ""
        token := some "--"
        command := .action "--help" "list"
      } :=
  Arguments.read_words
    {
      apiUrl := some ""
      token := some "--"
      command := .action "--help" "list"
    }
    { apiUrl := .after, token := .before, tokenFirst := false }
    (fun page isList => by cases isList)

end WorkflowQueue.CommandLine
