import WorkflowQueue.CommandLine.Reader
import WorkflowQueue.Proofs.Records.Reading

namespace WorkflowQueue.CommandLine

/-!
# Words without an address and a token

The address and the token may be given in front of any words of a level, because
no step of reading that succeeds looks at them. `Indifferent` says this of a
step: where it ends without the two, it began without them, and it does the same
after them. Every step is indifferent, and so is a level word by word.
-/

namespace Given

/-- What words have given, with an address and a token instead of their own. -/
def configured
    (given : Given)
    (apiUrl token : Option String) :
    Given :=
  { given with apiUrl := apiUrl, token := token }

/-- Neither an address nor a token was given, and neither of them is to come. -/
structure Unaddressed
    (given : Given) : Prop where
  apiUrl : given.apiUrl = none
  token : given.token = none
  pending : ∀ pending ∈ given.pending, pending.setting = .page

end Given

open Given

/--
A step that, where it ends without an address and a token, began without them
and does the same whichever were given before it.
-/
def Indifferent
    (step : Given → Except Refusal Given) :
    Prop :=
  ∀ given result,
    step given = .ok result →
      result.Unaddressed →
        given.Unaddressed ∧
          ∀ apiUrl token,
            step (given.configured apiUrl token) =
              .ok (result.configured apiUrl token)

theorem Indifferent.bind
    {first second : Given → Except Refusal Given}
    (firstIndifferent : Indifferent first)
    (secondIndifferent : Indifferent second) :
    Indifferent fun given => first given >>= second := by
  intro given result succeeded unaddressed
  obtain ⟨intermediate, isFirst, isSecond⟩ := Except.bind_eq_ok_iff.mp succeeded
  obtain ⟨between, secondSame⟩ := secondIndifferent _ _ isSecond unaddressed
  obtain ⟨before, firstSame⟩ := firstIndifferent _ _ isFirst between
  refine ⟨before, fun apiUrl token => ?_⟩
  exact Except.bind_eq_ok_iff.mpr ⟨_, firstSame apiUrl token,
    secondSame apiUrl token⟩

/-- A choice that does not depend on the address and the token. -/
theorem Indifferent.ite
    {condition : Given → Prop}
    [DecidablePred condition]
    {yes no : Given → Except Refusal Given}
    (same : ∀ given apiUrl token, condition (given.configured apiUrl token) ↔
      condition given)
    (yesIndifferent : Indifferent yes)
    (noIndifferent : Indifferent no) :
    Indifferent fun given =>
      if condition given then yes given else no given := by
  intro given result chosen unaddressed
  by_cases holds : condition given
  · simp only [holds, ↓reduceIte] at chosen
    simpa only [same, holds, ↓reduceIte] using
      yesIndifferent given result chosen unaddressed
  · simp only [holds, ↓reduceIte] at chosen
    simpa only [same, holds, ↓reduceIte] using
      noIndifferent given result chosen unaddressed

/-- A step that always fails. -/
theorem Indifferent.error
    (refusal : Refusal) :
    Indifferent fun _ => .error refusal := by
  intro given result succeeded
  cases succeeded

/-! ## What a step does -/

section Cases

variable
  {given result : Given}
  {setting : Setting}
  {value : String}

/--
An option is recorded where it was not given before and its value can be read.
-/
theorem record_cases
    (recorded : given.record setting value = .ok result) :
    (setting = .apiUrl ∧ given.apiUrl = none ∧
        result = { given with apiUrl := some value }) ∨
      (setting = .token ∧ given.token = none ∧
        result = { given with token := some value }) ∨
      ∃ page, setting = .page ∧ given.page = none ∧
          page? value.toList = some page ∧
        result = { given with page := some page } := by
  cases setting with
  | apiUrl =>
      simp only [record] at recorded
      split at recorded
      · cases recorded
      · next fresh =>
          cases recorded
          exact Or.inl ⟨rfl, by simpa using fresh, rfl⟩
  | token =>
      simp only [record] at recorded
      split at recorded
      · cases recorded
      · next fresh =>
          cases recorded
          exact Or.inr (Or.inl ⟨rfl, by simpa using fresh, rfl⟩)
  | page =>
      simp only [record] at recorded
      split at recorded
      · cases recorded
      · next fresh =>
          cases number : page? value.toList with
          | none =>
              rw [number] at recorded
              cases recorded
          | some page =>
              rw [number] at recorded
              cases recorded
              exact Or.inr (Or.inr ⟨page, rfl, by simpa using fresh, rfl, rfl⟩)

/-- What is pending is recorded if it has a value. -/
theorem settle_cases
    (settled : given.settle = .ok result) :
    (given.pending = none ∧ result = given) ∨
      ∃ setting value, given.pending =
          some { setting := setting, value := some value } ∧
        { given with pending := none }.record setting value = .ok result := by
  unfold settle at settled
  split at settled
  · next nothingPending =>
      cases settled
      exact Or.inl ⟨nothingPending, rfl⟩
  · cases settled
  · next setting value isPending =>
      exact Or.inr ⟨setting, value, isPending, settled⟩

theorem record_pending
    (recorded : given.record setting value = .ok result) :
    result.pending = given.pending := by
  rcases record_cases recorded with ⟨-, -, rfl⟩ | ⟨-, -, rfl⟩ |
    ⟨page, -, -, -, rfl⟩ <;> rfl

/-- Judging what is pending leaves nothing pending. -/
theorem settle_pending
    (settled : given.settle = .ok result) :
    result.pending = none := by
  rcases settle_cases settled with
    ⟨nothingPending, rfl⟩ | ⟨setting, value, -, recorded⟩
  · exact nothingPending
  · exact record_pending recorded

/-- With nothing pending there is nothing to judge. -/
theorem settle_of_none
    (nothingPending : given.pending = none) :
    given.settle = .ok given := by
  unfold settle
  rw [nothingPending]

end Cases

/--
Only the number of a page is recorded without giving an address or a token.
-/
theorem record_indifferent
    (setting : Setting)
    (value : String) :
    Indifferent fun given => given.record setting value := by
  intro given result recorded unaddressed
  rcases record_cases recorded with
    ⟨-, -, rfl⟩ | ⟨-, -, rfl⟩ | ⟨page, rfl, fresh, number, rfl⟩
  · cases unaddressed.apiUrl
  · cases unaddressed.token
  · refine ⟨⟨unaddressed.apiUrl, unaddressed.token, unaddressed.pending⟩,
      fun apiUrl token => ?_⟩
    simp [record, configured, fresh, number]

theorem settle_indifferent :
    Indifferent settle := by
  intro given result settled unaddressed
  rcases settle_cases settled with
    ⟨nothingPending, rfl⟩ | ⟨setting, value, isPending, recorded⟩
  · exact ⟨unaddressed, fun apiUrl token => settle_of_none nothingPending⟩
  · obtain ⟨before, same⟩ :=
      record_indifferent setting value _ _ recorded unaddressed
    have isPage : setting = .page := by
      rcases record_cases recorded with ⟨-, -, rfl⟩ | ⟨-, -, rfl⟩ |
        ⟨page, isPage, -, -, -⟩
      · cases unaddressed.apiUrl
      · cases unaddressed.token
      · exact isPage
    refine ⟨⟨before.apiUrl, before.token, by simp [isPending, isPage]⟩,
      fun apiUrl token => ?_⟩
    unfold settle
    simp only [configured, isPending]
    exact same apiUrl token

/-- A step after what is pending was judged. -/
theorem Indifferent.afterSettle
    {step : Given → Except Refusal Given}
    (indifferent :
      ∀ given result,
        given.pending = none →
          step given = .ok result →
            result.Unaddressed →
              (given.apiUrl = none ∧ given.token = none) ∧
                ∀ apiUrl token,
                  step (given.configured apiUrl token) =
                    .ok (result.configured apiUrl token)) :
    Indifferent fun given => given.settle >>= step := by
  intro given result succeeded unaddressed
  obtain ⟨settled, isSettled, isStep⟩ := Except.bind_eq_ok_iff.mp succeeded
  have nothingPending := settle_pending isSettled
  obtain ⟨⟨noApiUrl, noToken⟩, stepSame⟩ :=
    indifferent _ _ nothingPending isStep unaddressed
  obtain ⟨before, settleSame⟩ := settle_indifferent _ _ isSettled
    ⟨noApiUrl, noToken, by simp [nothingPending]⟩
  refine ⟨before, fun apiUrl token => ?_⟩
  exact Except.bind_eq_ok_iff.mpr ⟨_, settleSame apiUrl token,
    stepSame apiUrl token⟩

theorem await_indifferent
    (setting : Setting) :
    Indifferent fun given => given.await setting := by
  refine .afterSettle fun given result nothingPending awaits unaddressed => ?_
  cases awaits
  exact ⟨⟨unaddressed.apiUrl, unaddressed.token⟩, fun apiUrl token => rfl⟩

theorem attach_indifferent
    (setting : Setting)
    (value : List Char) :
    Indifferent fun given => given.attach setting value := by
  refine .afterSettle fun given result nothingPending recorded unaddressed => ?_
  obtain ⟨before, same⟩ := record_indifferent setting _ _ _ recorded unaddressed
  exact ⟨⟨before.apiUrl, before.token⟩, same⟩

theorem raise_indifferent
    (level : Level)
    (flag : Flag) :
    Indifferent fun given => given.raise level flag := by
  refine .afterSettle fun given result nothingPending raised unaddressed => ?_
  cases flag with
  | all =>
      cases already : given.all with
      | true =>
          simp [already] at raised
      | false =>
          simp only [already] at raised
          cases raised
          refine ⟨⟨unaddressed.apiUrl, unaddressed.token⟩,
            fun apiUrl token => ?_⟩
          simp [configured, already, pure, Except.pure]
  | help =>
      cases raised
  | version =>
      cases raised

theorem place_indifferent
    (level : Level)
    (separated : Bool)
    (word : String) :
    Indifferent fun given => given.place level separated word := by
  have settles : Indifferent fun given =>
      given.settle >>= fun settled =>
        pure { settled with operands := settled.operands ++ [word] } := by
    refine .afterSettle fun given result nothingPending placed unaddressed => ?_
    cases placed
    exact ⟨⟨unaddressed.apiUrl, unaddressed.token⟩, fun apiUrl token => rfl⟩
  exact .ite (fun _ _ _ => Iff.rfl) settles (.error _)

theorem readLong_indifferent
    (level : Level)
    (name : List Char)
    (value : Option (List Char)) :
    Indifferent fun given => given.readLong level name value := by
  unfold readLong
  cases level.named? name with
  | none =>
      exact .error _
  | some switch =>
      cases switch with
      | flag flag =>
          cases value with
          | none =>
              exact raise_indifferent level flag
          | some value =>
              exact .error _
      | setting setting =>
          cases value with
          | none =>
              exact await_indifferent setting
          | some value =>
              exact attach_indifferent setting value

section Letters

variable
  {level : Level}
  {letter : Char}
  {rest : List Char}

theorem readLetters_of_none
    (unknown : level.lettered? letter = none) :
    readLetters level (letter :: rest) = fun _ => .error .unknownArgument := by
  funext given
  simp only [readLetters, unknown]

theorem readLetters_of_flag
    {flag : Flag}
    (isFlag : level.lettered? letter = some (.flag flag)) :
    readLetters level (letter :: rest) =
      fun given => given.raise level flag >>= readLetters level rest := by
  funext given
  simp only [readLetters, isFlag]
  cases given.raise level flag <;> rfl

/--
The letter of an option with a value takes what follows it, or waits for its
value.
-/
theorem readLetters_of_setting
    {setting : Setting}
    (isSetting : level.lettered? letter = some (.setting setting)) :
    (readLetters level (letter :: rest) = fun given => given.await setting) ∨
      ∃ value, readLetters level (letter :: rest) = fun given =>
        given.attach setting value := by
  cases rest with
  | nil =>
      refine Or.inl (funext fun given => ?_)
      simp only [readLetters, isSetting]
  | cons c value =>
      by_cases isEquals : c = '='
      · subst isEquals
        refine Or.inr ⟨value, funext fun given => ?_⟩
        simp only [readLetters, isSetting]
      · refine Or.inr ⟨c :: value, funext fun given => ?_⟩
        simp [readLetters, isSetting, isEquals]

end Letters

theorem readLetters_indifferent
    (level : Level)
    (letters : List Char) :
    Indifferent (readLetters level letters) := by
  induction letters with
  | nil =>
      intro given result read unaddressed
      cases read
      exact ⟨unaddressed, fun apiUrl token => rfl⟩
  | cons letter rest inductionHypothesis =>
      cases isSwitch : level.lettered? letter with
      | none =>
          rw [readLetters_of_none isSwitch]
          exact .error _
      | some switch =>
          cases switch with
          | flag flag =>
              rw [readLetters_of_flag isSwitch]
              exact .bind (raise_indifferent level flag) inductionHypothesis
          | setting setting =>
              rcases @readLetters_of_setting _ _ rest _ isSwitch with
                awaits | ⟨value, attaches⟩
              · rw [awaits]
                exact await_indifferent setting
              · rw [attaches]
                exact attach_indifferent setting value

/-- Operands are placed one after another. -/
theorem placeAll_cons
    (level : Level)
    (word : String)
    (rest : List String) :
    placeAll level (word :: rest) =
      fun given => given.place level true word >>= placeAll level rest := by
  funext given
  simp only [placeAll]
  cases given.place level true word <;> rfl

theorem placeAll_indifferent
    (level : Level)
    (words : List String) :
    Indifferent (placeAll level words) := by
  induction words with
  | nil =>
      intro given result placed unaddressed
      cases placed
      exact ⟨unaddressed, fun apiUrl token => rfl⟩
  | cons word rest inductionHypothesis =>
      rw [placeAll_cons]
      exact .bind (place_indifferent level true word) inductionHypothesis

theorem supply_indifferent
    (value : String) :
    Indifferent fun given => .ok (given.supply value) := by
  intro given result supplied unaddressed
  cases supplied
  refine ⟨⟨unaddressed.apiUrl, unaddressed.token, ?_⟩, fun apiUrl token => rfl⟩
  intro pending isPending
  refine unaddressed.pending { pending with value := some value } ?_
  simp [supply, Option.mem_def.mp isPending]

theorem readWord_indifferent
    (level : Level)
    (word : String) :
    Indifferent fun given => given.readWord level word := by
  have plain : Indifferent fun given =>
      if given.isAwaiting then
        .ok (given.supply word) else given.place level false word :=
    .ite (fun _ _ _ => Iff.rfl) (supply_indifferent word)
      (place_indifferent level false word)
  unfold readWord
  cases Word.ofChars word.toList with
  | long name value => exact readLong_indifferent level name value
  | letters letters => exact readLetters_indifferent level letters
  | separator => exact plain
  | plain => exact plain

/-! ## Levels -/

section Words

variable
  {level : Level}
  {given : Given}
  {word : String}
  {rest : List String}

/-- The name of a command ends the level of the program. -/
theorem readLevel_of_name
    {name : CommandName}
    (isName : topicAt level given word = some (.level (.command name))) :
    readLevel level (word :: rest) given =
      .ok (given, some { name := name, rest := rest }) := by
  rw [readLevel, isName]

/-- After the separator everything is an operand. -/
theorem readLevel_of_separator
    (noTopic : topicAt level given word = none)
    (isSeparator : Word.ofChars word.toList = .separator) :
    readLevel level (word :: rest) given =
      (given.placeAll level rest).map fun given => (given, none) := by
  rw [readLevel, noTopic]
  exact if_pos isSeparator

/-- Any other word is read by itself. -/
theorem readLevel_of_word
    (noTopic : topicAt level given word = none)
    (notSeparator : Word.ofChars word.toList ≠ .separator) :
    readLevel level (word :: rest) given =
      given.readWord level word >>= readLevel level rest := by
  rw [readLevel, noTopic]
  dsimp only
  rw [if_neg notSeparator]
  cases given.readWord level word <;> rfl

end Words

theorem topicAt_configured
    (level : Level)
    (given : Given)
    (word : String)
    (apiUrl token : Option String) :
    topicAt level (given.configured apiUrl token) word =
      topicAt level given word := by
  cases level <;> rfl

/--
A word at the place of a command's name that is read on is no request for help.
-/
theorem topicAt_cases
    {level : Level}
    {words : List String}
    {word : String}
    {given : Given}
    {read : Given × Option Choice}
    (isRead : readLevel level (word :: words) given = .ok read) :
    topicAt level given word = none ∨
      ∃ name, topicAt level given word = some (.level (.command name)) := by
  cases topic : topicAt level given word with
  | none =>
      exact Or.inl rfl
  | some topic' =>
      rw [readLevel, topic] at isRead
      split at isRead
      · next name isName =>
          exact Or.inr ⟨name, isName⟩
      · cases isRead
      · contradiction

/--
The words of a level that give neither an address nor a token are read the same
way after an address and a token. The induction follows the words.
-/
theorem readLevel_configured
    {level : Level}
    {words : List String}
    {given result : Given}
    {choice : Option Choice}
    (read : readLevel level words given = .ok (result, choice))
    (unaddressed : result.Unaddressed) :
    given.Unaddressed ∧
      ∀ apiUrl token,
        readLevel level words (given.configured apiUrl token) =
          .ok (result.configured apiUrl token, choice) := by
  induction words generalizing given with
  | nil =>
      cases read
      exact ⟨unaddressed, fun apiUrl token => rfl⟩
  | cons word rest inductionHypothesis =>
      have sameTopic := topicAt_configured level given word
      rcases topicAt_cases read with noTopic | ⟨name, isName⟩
      · by_cases isSeparator : Word.ofChars word.toList = .separator
        · rw [readLevel_of_separator noTopic isSeparator] at read
          cases isPlaced : given.placeAll level rest with
          | error refusal =>
              rw [isPlaced] at read
              cases read
          | ok placed =>
              rw [isPlaced] at read
              cases read
              obtain ⟨before, placeSame⟩ :=
                placeAll_indifferent level rest _ _ isPlaced unaddressed
              refine ⟨before, fun apiUrl token => ?_⟩
              rw [readLevel_of_separator ((sameTopic _ _).trans noTopic)
                isSeparator, placeSame apiUrl token]
              rfl
        · rw [readLevel_of_word noTopic isSeparator] at read
          obtain ⟨following, isWord, isRest⟩ := Except.bind_eq_ok_iff.mp read
          obtain ⟨between, restSame⟩ := inductionHypothesis isRest
          obtain ⟨before, wordSame⟩ :=
            readWord_indifferent level word _ _ isWord between
          refine ⟨before, fun apiUrl token => ?_⟩
          rw [readLevel_of_word ((sameTopic _ _).trans noTopic) isSeparator]
          exact Except.bind_eq_ok_iff.mpr ⟨_, wordSame apiUrl token,
            restSame apiUrl token⟩
      · rw [readLevel_of_name isName] at read
        cases read
        exact ⟨unaddressed, fun apiUrl token =>
          readLevel_of_name ((sameTopic apiUrl token).trans isName)⟩

end WorkflowQueue.CommandLine
