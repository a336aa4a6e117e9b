import WorkflowQueue.Variables.File

namespace WorkflowQueue.Variables

/-!
# Variables that make no difference

Two environments that differ in some variables only still do so after the same
file of variables, unless a value in the file is made of them. A written value
asks for the variables that `namesAskedFor` lists and for no others, and whether
it can be read at all does not depend on any.
-/

/-! ## Environments -/

section Environments

variable
  {names : List String}
  {first second : Variables}

/-- Variables with the same values, apart from those of some names. -/
def AgreeApart
    (names : List String)
    (first second : Variables) :
    Prop :=
  ∀ name ∉ names, first.value? name = second.value? name

/-- A definition counts for its own name, unless that has a value. -/
theorem value?_define
    (environment : Variables)
    (name value other : String) :
    (environment.define name value).value? other =
      (environment.value? other).or
        (if other = name then some value else none) := by
  unfold define
  split
  · next isSet =>
      by_cases same : other = name
      · subst same
        rw [Option.or_of_isSome isSet]
      · simp [same]
  · simp only [value?, List.lookup_append]
    by_cases same : other = name <;> simp [same]

/-- A variable that is set keeps its value when others are defined. -/
theorem value?_define_of_eq_some
    {environment : Variables}
    {name value : String}
    (isSet : environment.value? name = some value)
    (other more : String) :
    (environment.define other more).value? name = some value := by
  rw [value?_define, isSet, Option.some_or]

/--
A definition keeps an agreement if its value is the same, or if it is not agreed
on.
-/
theorem AgreeApart.define
    (agree : AgreeApart names first second)
    {name value other : String}
    (same : name ∉ names → value = other) :
    AgreeApart names (first.define name value) (second.define name other) := by
  intro agreed notIn
  rw [value?_define, value?_define, agree agreed notIn]
  by_cases isName : agreed = name
  · rw [same (isName ▸ notIn)]
  · simp [isName]

end Environments

/-! ## Values -/

/-- The names that may be asked for by what is left of a value. -/
def namesAhead :
    Reading →
    List Char →
    List String
  | .name _ [], text => namesAskedFor ('$' :: text)
  | .name _ name, text =>
      String.ofList (name ++ text.takeWhile isWordChar) :: namesAskedFor text
  | .braced _ name, text =>
      String.ofList (name ++ text.takeWhile (· ≠ '\x7d')) :: namesAskedFor text
  | _, text => namesAskedFor text

@[simp]
theorem namesAhead_within
    (quoted : Bool)
    (text : List Char) :
    namesAhead (.within quoted) text = namesAskedFor text := by
  cases quoted <;> rfl

/-- After a dollar sign a name in braces or a plain name is asked for. -/
theorem namesAskedFor_dollar
    {c : Char}
    (notBrace : c ≠ '\x7b')
    (rest : List Char) :
    namesAskedFor ('$' :: c :: rest) =
      String.ofList ((c :: rest).takeWhile isWordChar) ::
        namesAskedFor (c :: rest) := by
  rw [namesAskedFor]
  exact fun _ isBrace => notBrace (List.cons.inj isBrace).1

theorem namesAskedFor_of_ne_dollar
    {c : Char}
    (notDollar : c ≠ '$')
    (rest : List Char) :
    namesAskedFor (c :: rest) = namesAskedFor rest := by
  rw [namesAskedFor]
  · exact fun _ isDollar => (notDollar isDollar).elim
  · exact notDollar

theorem namesAskedFor_subset_cons
    (c : Char)
    (text : List Char) :
    namesAskedFor text ⊆ namesAskedFor (c :: text) := by
  by_cases isDollar : c = '$'
  · subst isDollar
    cases text with
    | nil => exact List.nil_subset _
    | cons d rest =>
        by_cases isBrace : d = '\x7b'
        · subst isBrace
          rw [namesAskedFor_of_ne_dollar (by decide)]
          exact List.subset_cons_self _ _
        · rw [namesAskedFor_dollar isBrace]
          exact List.subset_cons_self _ _
  · rw [namesAskedFor_of_ne_dollar isDollar]
    exact List.Subset.refl _

/-- Whether a value can be read does not depend on what names mean. -/
theorem isSome_readValue?
    (meaning other : List Char → List Char)
    (text : List Char)
    (reading : Reading) :
    (readValue? meaning text reading).isSome =
      (readValue? other text reading).isSome := by
  fun_induction readValue? meaning text reading <;> simp_all [readValue?]
  -- What is left is a name that ends with a character of the value.
  next notBrace _ _ =>
    rw [if_neg fun both => notBrace both.1 both.2]
    exact Option.isSome_map.symm

/--
What begins inside or outside of double quotes asks for nothing that was not
ahead.
-/
theorem namesAhead_special
    {quoted : Bool}
    {c : Char}
    {next : Reading}
    (special : Reading.special? quoted c = some next)
    (rest : List Char) :
    namesAhead next rest ⊆ namesAskedFor (c :: rest) := by
  unfold Reading.special? at special
  split at special
  · next isDollar =>
      cases special
      subst isDollar
      exact List.Subset.refl _
  · split at special
    · cases special
      exact namesAskedFor_subset_cons c rest
    · cases special

/-- A name that goes on is the name that was ahead. -/
theorem namesAhead_name_append
    {c : Char}
    (isWord : isWordChar c = true)
    (quoted : Bool)
    (name rest : List Char) :
    namesAhead (.name quoted (name ++ [c])) rest ⊆
      namesAhead (.name quoted name) (c :: rest) := by
  have goesOn : namesAhead (.name quoted (name ++ [c])) rest =
      String.ofList (name ++ (c :: rest).takeWhile isWordChar) ::
        namesAskedFor rest := by
    cases name <;> simp [namesAhead, isWord]
  have notBrace : c ≠ '\x7b' := by
    rintro rfl
    cases isWord
  have ahead : namesAhead (.name quoted name) (c :: rest) =
      String.ofList (name ++ (c :: rest).takeWhile isWordChar) ::
        namesAskedFor (c :: rest) := by
    cases name with
    | nil => exact namesAskedFor_dollar notBrace rest
    | cons first more => rfl
  rw [goesOn, ahead]
  exact List.cons_subset_cons _ (namesAskedFor_subset_cons c rest)

/-- A name that ends is ahead, and so is what is asked for after it. -/
theorem namesAhead_name_ended
    {c : Char}
    {name : List Char}
    (noWord : isWordChar c = false)
    (notBraced : ¬(c = '\x7b' ∧ name = []))
    (quoted : Bool)
    (rest : List Char) :
    namesAhead (.name quoted name) (c :: rest) =
      String.ofList name :: namesAskedFor (c :: rest) := by
  cases name with
  | nil =>
      refine (namesAskedFor_dollar (fun isBrace => notBraced ⟨isBrace, rfl⟩)
        rest).trans ?_
      simp [noWord]
  | cons first more =>
      simp [namesAhead, noWord]

/--
A value is made of what the names that it asks for mean. The induction is on the
text, for every way to go on reading; names that are ahead after a character
were ahead before.
-/
theorem readValue?_congr
    {meaning other : List Char → List Char}
    {text : List Char}
    {reading : Reading}
    (same : ∀ name, String.ofList name ∈ namesAhead reading text →
      meaning name = other name) :
    readValue? meaning text reading = readValue? other text reading := by
  induction text generalizing reading with
  | nil =>
      cases reading with
      | name quoted name =>
          cases quoted with
          | false =>
              have asked :
                  String.ofList name ∈ namesAhead (.name false name) [] := by
                cases name <;> simp [namesAhead, namesAskedFor]
              simp only [readValue?, same name asked]
          | true =>
              rfl
      | escaped quoted =>
          cases quoted <;> rfl
      | _ =>
          rfl
  | cons c rest inductionHypothesis =>
      have after : ∀ {next : Reading}, namesAhead next rest ⊆
          namesAhead reading (c :: rest) →
          readValue? meaning rest next = readValue? other rest next :=
        fun within => inductionHypothesis fun name member =>
          same name (within member)
      have skip := namesAskedFor_subset_cons c rest
      cases reading with
      | bare =>
          simp only [readValue?]
          cases special : Reading.special? false c with
          | some next => exact after (namesAhead_special special rest)
          | none =>
              simp only [@after .single skip, @after .double skip,
                @after .ended skip, @after .bare skip]
      | single =>
          simp only [readValue?, @after .bare skip, @after .single skip]
      | double =>
          simp only [readValue?]
          cases special : Reading.special? true c with
          | some next => exact after (namesAhead_special special rest)
          | none => simp only [@after .double skip, @after .bare skip]
      | escaped quoted =>
          have within :=
            @after (.within quoted)
              ((namesAhead_within quoted rest).symm ▸ skip)
          simp only [readValue?, within]
      | name quoted name =>
          by_cases isWord : isWordChar c = true
          · simp only [readValue?, isWord, ↓reduceIte]
            exact after (namesAhead_name_append isWord quoted name rest)
          by_cases isBraced : c = '\x7b' ∧ name = []
          · obtain ⟨rfl, rfl⟩ := isBraced
            simp only [readValue?, isWord]
            exact after (List.Subset.refl _)
          have ended :=
            namesAhead_name_ended (Bool.eq_false_iff.mpr isWord)
              isBraced quoted rest
          have asked : meaning name = other name :=
            same name (ended ▸ List.mem_cons_self)
          rw [ended] at after
          by_cases isDollar : c = '$'
          · subst isDollar
            have again := @after (.name quoted []) (List.subset_cons_self _ _)
            simp [readValue?, isWord, asked, again]
          · have within := @after (.within quoted) <| by
              rw [namesAhead_within]
              exact List.subset_cons_of_subset _ skip
            have noBrace : (decide (c = '\x7b') && name.isEmpty) = false := by
              simpa using not_and.mp isBraced
            simp only [readValue?, isWord, noBrace, isDollar,
              Bool.false_eq_true, ↓reduceIte, asked, within]
      | braced quoted name =>
          by_cases isEnd : c = '\x7d'
          · subst isEnd
            have asked : meaning name = other name :=
              same name (by simp [namesAhead])
            have within := @after (.within quoted) <| by
              rw [namesAhead_within]
              exact List.subset_cons_of_subset _ skip
            simp [readValue?, asked, within]
          · have goesOn := @after (.braced quoted (name ++ [c])) <| by
              simpa [namesAhead, isEnd] using List.subset_cons_of_subset _ skip
            simp [readValue?, isEnd, goesOn]
      | ended =>
          simp only [readValue?, @after .ended skip]

/--
A written value stands for the same, whatever the values of some variables are.
-/
def Independent
    (names : List String)
    (written : List Char) :
    Prop :=
  ∀ first second,
    AgreeApart names first second →
      definedValue? first written = definedValue? second written

/-- What asks for none of some variables is independent of them. -/
theorem independent_of_namesAskedFor
    {names : List String}
    {written : List Char}
    (asksForNone : ∀ name ∈ namesAskedFor written, name ∉ names) :
    Independent names written := by
  intro first second agree
  unfold definedValue?
  split
  · rfl
  · refine readValue?_congr fun name asked => ?_
    rw [agree (String.ofList name) (asksForNone _ asked)]

theorem isSome_definedValue?
    (first second : Variables)
    (written : List Char) :
    (first.definedValue? written).isSome =
      (second.definedValue? written).isSome := by
  unfold definedValue?
  split
  · rfl
  · exact isSome_readValue? _ _ written .bare

/-! ## Files -/

section Files

variable
  {names : List String}
  {first second : Variables}

/--
What a line defines is independent of some variables, unless it is one of them.
-/
def IndependentLine
    (names : List String)
    (line : List Char) :
    Prop :=
  ∀ name written,
    splitDefinition? (Text.trim line) = some (name, written) →
      String.ofList name ∉ names →
        Independent names written

/-- The lines of the text of a file. -/
def linesOf
    (text : String) :
    List (List Char) :=
  let written :=
    match text.toList with
    | '\uFEFF' :: rest => rest
    | whole => whole
  fileLines [] .plain (textLines written)

/--
No line of a file makes a variable of some others, unless it is one of them
itself.
-/
def IndependentFile
    (names : List String)
    (text : String) :
    Prop :=
  ∀ line ∈ linesOf text, IndependentLine names line

/-- A file that asks for none of some variables is independent of them. -/
theorem independentFile_of_namesAskedFor
    {text : String}
    (asksForNone :
      ∀ line ∈ linesOf text, ∀ definition ∈ splitDefinition? (Text.trim line),
        ∀ name ∈ namesAskedFor definition.2, name ∉ names) :
    IndependentFile names text :=
  fun line isLine _ written isDefinition _ =>
    independent_of_namesAskedFor
      (asksForNone line isLine (_, written) isDefinition)

/--
Environments that agree still do after a line, or it can be read in neither of
them.
-/
theorem AgreeApart.defineLine?
    (agree : AgreeApart names first second)
    {line : List Char}
    (independent : IndependentLine names line) :
    Option.Rel (AgreeApart names) (first.defineLine? line)
      (second.defineLine? line) := by
  unfold Variables.defineLine?
  dsimp only
  split
  · exact .some agree
  cases isDefinition : splitDefinition? (Text.trim line) with
  | none =>
      exact .none
  | some definition =>
      obtain ⟨name, written⟩ := definition
      have bothRead := isSome_definedValue? first second written
      cases isFirst : first.definedValue? written with
      | none =>
          simp only [isFirst, Option.isSome_none, Bool.false_eq,
            Option.isSome_eq_false_iff, Option.isNone_iff_eq_none] at bothRead
          simp only [Option.bind_eq_bind, Option.bind_some, isFirst, bothRead]
          exact .none
      | some value =>
          simp only [isFirst, Option.isSome_some, Bool.true_eq,
            Option.isSome_iff_exists] at bothRead
          obtain ⟨other, isSecond⟩ := bothRead
          simp only [Option.bind_eq_bind, Option.bind_some, isFirst, isSecond]
          refine .some (agree.define fun notIn => ?_)
          have same :=
            independent name written isDefinition notIn first second agree
          rw [isFirst, isSecond] at same
          rw [Option.some.inj same]

/-- Environments that agree still do after the lines of a file. -/
theorem AgreeApart.defineLines
    (agree : AgreeApart names first second)
    {lines : List (List Char)}
    (independent : ∀ line ∈ lines, IndependentLine names line) :
    AgreeApart names (first.defineLines lines) (second.defineLines lines) := by
  induction lines generalizing first second with
  | nil =>
      exact agree
  | cons line rest inductionHypothesis =>
      simp only [List.forall_mem_cons] at independent
      have afterLine := agree.defineLine? independent.1
      simp only [Variables.defineLines]
      generalize first.defineLine? line = firstMore at afterLine ⊢
      generalize second.defineLine? line = secondMore at afterLine ⊢
      cases afterLine with
      | none => exact agree
      | some agreeAfter => exact inductionHypothesis agreeAfter independent.2

theorem AgreeApart.defineFile
    (agree : AgreeApart names first second)
    {text : String}
    (independent : IndependentFile names text) :
    AgreeApart names (first.defineFile text) (second.defineFile text) :=
  agree.defineLines independent

end Files

/-! ## What a file cannot change -/

section Kept

variable
  {environment : Variables}
  {name value : String}

theorem value?_defineLine?
    (isSet : environment.value? name = some value)
    {line : List Char}
    {more : Variables}
    (defined : environment.defineLine? line = some more) :
    more.value? name = some value := by
  unfold defineLine? at defined
  dsimp only at defined
  split at defined
  · cases defined
    exact isSet
  · simp only [Option.bind_eq_bind, Option.bind_eq_some_iff, pure,
      Option.some.injEq] at defined
    obtain ⟨definition, -, written, -, rfl⟩ := defined
    exact value?_define_of_eq_some isSet _ _

/-- A variable that is set keeps its value, whatever a file says. -/
theorem value?_defineLines
    (isSet : environment.value? name = some value)
    (lines : List (List Char)) :
    (environment.defineLines lines).value? name = some value := by
  induction lines generalizing environment with
  | nil =>
      exact isSet
  | cons line rest inductionHypothesis =>
      simp only [defineLines]
      split
      · exact isSet
      · next more defined =>
          exact inductionHypothesis (value?_defineLine? isSet defined)

end Kept

end WorkflowQueue.Variables
