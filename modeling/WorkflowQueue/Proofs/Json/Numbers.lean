import Mathlib.Data.List.TakeWhile
import WorkflowQueue.Proofs.Json.Tokens

namespace WorkflowQueue.Json

/-!
# Numbers and what follows them

A number that is read from a whole text is read in the same way in front of
every rest that does not continue it, and a number that is read in front of a
rest is read in the same way without the rest. `ReadsInFront` and `ReadsAlone`
say so of a reader of numbers, and there is one statement for each of them, in
the order in which they call one another.
-/

/-! ## Numbers in front of a rest -/

/-- A reader that reads a whole text in the same way in front of a rest. -/
def ReadsInFront
    (reader : List Char → Read Json) :
    Prop :=
  ∀ {text : List Char} {value : Json} {rest : List Char},
    reader text = .ok (value, []) →
    EndsNumber rest →
    reader (text ++ rest) = .ok (value, rest)

/--
The digits that are dropped from a text are dropped in front of a rest as well.
-/
theorem skipDigits_append
    (text : List Char)
    {rest : List Char}
    (noDigit : Decimal.NoDigitAhead rest) :
    skipDigits (text ++ rest) = skipDigits text ++ rest := by
  have kept : skipDigits rest = rest := by
    cases rest with
    | nil => rfl
    | cons c after =>
        rw [skipDigits, List.dropWhile_cons, noDigit c rfl]
        rfl
  rw [skipDigits, List.dropWhile_append, ← skipDigits, ← skipDigits, kept]
  split
  · next dropped => rw [List.isEmpty_iff.mp dropped, List.nil_append]
  · rfl

section Readers

variable
  (negative : Bool)
  (significand : Nat)

theorem floatOfParts_inFront
    (exponent : Int) :
    ReadsInFront (floatOfParts negative significand exponent) := by
  intro text value rest isRead ends
  unfold floatOfParts at isRead ⊢
  split at isRead
  · cases isRead
    rfl
  · cases isRead

/--
At the end of a text, and in front of what is no digit, an exponent is complete.
-/
theorem exponentDigits_of_noDigit
    (start : Int)
    (downward : Bool)
    (gathered : Nat)
    {rest : List Char}
    (noDigit : Decimal.NoDigitAhead rest) :
    exponentDigits negative significand start downward gathered rest =
      exponentDigits.finish negative significand start downward
        gathered rest := by
  cases rest with
  | nil => rfl
  | cons c after =>
      rw [exponentDigits, Decimal.digit?_of_not_isDigit (noDigit c rfl)]

theorem exponentDigits_inFront
    (start : Int)
    (downward : Bool)
    (gathered : Nat) :
    ReadsInFront (exponentDigits negative significand start downward
      gathered) := by
  intro text value rest isRead ends
  induction text generalizing gathered with
  | nil =>
      rw [List.nil_append,
        exponentDigits_of_noDigit _ _ _ _ _ ends.noDigitAhead]
      exact @floatOfParts_inFront negative significand _ [] value
        rest isRead ends
  | cons c text inductionHypothesis =>
      rw [List.cons_append]
      unfold exponentDigits at isRead ⊢
      split at isRead
      · next digit isDigit =>
          dsimp only at isRead ⊢
          split at isRead
          · next fits =>
              rw [if_pos fits]
              exact inductionHypothesis _ isRead
          split at isRead
          · cases isRead
          · next tooLong notOut =>
              obtain ⟨isZero, dropped⟩ := Prod.mk.inj (Except.ok.inj isRead)
              rw [if_neg tooLong, if_neg notOut,
                skipDigits_append text ends.noDigitAhead, dropped]
              exact congrArg (fun value => Except.ok (value, rest)) isZero
      · exact floatOfParts_inFront negative significand _ isRead ends

/-- An exponent after its sign. -/
def unsignedExponent
    (start : Int)
    (downward : Bool) :
    List Char →
    Read Json
  | [] => stop .endOfValue []
  | c :: rest =>
      match Decimal.digit? c with
      | some d => exponentDigits negative significand start downward d rest
      | none => stop .invalidNumber (c :: rest)

theorem exponentPart_signed
    (start : Int)
    (digits : List Char) :
    exponentPart negative significand start ('+' :: digits) =
        unsignedExponent negative significand start false digits ∧
      exponentPart negative significand start ('-' :: digits) =
        unsignedExponent negative significand start true digits := by
  cases digits <;> exact ⟨rfl, rfl⟩

/-- An exponent without a sign points upward. -/
theorem exponentPart_unsigned
    (start : Int)
    {text : List Char}
    (unsigned : ∀ c ∈ text.head?, c ≠ '+' ∧ c ≠ '-') :
    exponentPart negative significand start text =
      unsignedExponent negative significand start false text := by
  unfold exponentPart
  split
  next isSigned =>
    split at isSigned
    · exact ((unsigned '+' rfl).1 rfl).elim
    · exact ((unsigned '-' rfl).2 rfl).elim
    · obtain ⟨rfl, rfl⟩ := Prod.mk.inj isSigned
      cases text <;> rfl

theorem unsignedExponent_inFront
    (start : Int)
    (downward : Bool) :
    ReadsInFront (unsignedExponent negative significand start downward) := by
  intro text value rest isRead ends
  cases text with
  | nil => cases isRead
  | cons c text =>
      rw [unsignedExponent] at isRead
      rw [List.cons_append, unsignedExponent]
      cases digit : Decimal.digit? c with
      | none =>
          rw [digit] at isRead
          cases isRead
      | some d =>
          rw [digit] at isRead
          exact exponentDigits_inFront negative significand start downward
            d isRead ends

theorem exponentPart_inFront
    (start : Int) :
    ReadsInFront (exponentPart negative significand start) := by
  intro text value rest isRead ends
  cases text with
  | nil => cases isRead
  | cons sign text =>
      by_cases upward : sign = '+'
      · subst upward
        rw [(exponentPart_signed _ _ _ _).1] at isRead
        rw [List.cons_append, (exponentPart_signed _ _ _ _).1]
        exact unsignedExponent_inFront negative significand start
          false isRead ends
      by_cases downward : sign = '-'
      · subst downward
        rw [(exponentPart_signed _ _ _ _).2] at isRead
        rw [List.cons_append, (exponentPart_signed _ _ _ _).2]
        exact unsignedExponent_inFront negative significand start
          true isRead ends
      have unsigned (more : List Char) :
          ∀ c ∈ (sign :: more).head?, c ≠ '+' ∧ c ≠ '-' := by
        rintro c (_ | _)
        exact ⟨upward, downward⟩
      rw [exponentPart_unsigned _ _ _ (unsigned text)] at isRead
      rw [List.cons_append,
        exponentPart_unsigned _ _ _ (unsigned (text ++ rest))]
      exact @unsignedExponent_inFront negative significand start false
        (sign :: text) value rest isRead ends

/-- Without the letter of an exponent a floating-point number is complete. -/
theorem floatTail_of_head
    (exponent : Int)
    {text : List Char}
    (noLetter : ∀ c ∈ text.head?, c ≠ 'e' ∧ c ≠ 'E') :
    floatTail negative significand exponent text =
      floatOfParts negative significand exponent text := by
  unfold floatTail
  split
  · exact ((noLetter 'e' rfl).1 rfl).elim
  · exact ((noLetter 'E' rfl).2 rfl).elim
  · rfl

theorem floatTail_inFront
    (exponent : Int) :
    ReadsInFront (floatTail negative significand exponent) := by
  intro text value rest isRead ends
  cases text with
  | nil =>
      rw [List.nil_append, floatTail_of_head _ _ _ fun c isFirst =>
        (ends c isFirst).2.2]
      exact @floatOfParts_inFront negative significand exponent [] value
        rest isRead ends
  | cons c text =>
      by_cases lower : c = 'e'
      · subst lower
        exact exponentPart_inFront negative significand exponent isRead ends
      by_cases upper : c = 'E'
      · subst upper
        exact exponentPart_inFront negative significand exponent isRead ends
      have noLetter (more : List Char) :
          ∀ other ∈ (c :: more).head?, other ≠ 'e' ∧ other ≠ 'E' := by
        rintro other (_ | _)
        exact ⟨lower, upper⟩
      rw [floatTail_of_head _ _ _ (noLetter text)] at isRead
      rw [List.cons_append, floatTail_of_head _ _ _ (noLetter (text ++ rest))]
      exact floatOfParts_inFront negative significand exponent isRead ends

theorem fractionDigits_of_noDigit
    (exponent : Int)
    {rest : List Char}
    (noDigit : Decimal.NoDigitAhead rest) :
    fractionDigits negative significand exponent rest =
      floatTail negative significand exponent rest := by
  cases rest with
  | nil => rw [fractionDigits]
  | cons c after =>
      rw [fractionDigits, Decimal.digit?_of_not_isDigit (noDigit c rfl)]

/--
Digits that do not fit are dropped, in front of a rest as at the end of the
text.
-/
theorem floatTail_skipDigits_inFront
    (exponent : Int) :
    ReadsInFront fun text =>
      floatTail negative significand exponent (skipDigits text) := by
  intro text value rest isRead ends
  dsimp only at isRead ⊢
  rw [skipDigits_append text ends.noDigitAhead]
  exact floatTail_inFront negative significand exponent isRead ends

theorem fractionDigits_inFront
    (exponent : Int) :
    ReadsInFront (fractionDigits negative significand exponent) := by
  intro text value rest isRead ends
  induction text generalizing significand exponent with
  | nil =>
      rw [List.nil_append, fractionDigits_of_noDigit _ _ _ ends.noDigitAhead]
      rw [fractionDigits] at isRead
      exact @floatTail_inFront negative significand exponent [] value
        rest isRead ends
  | cons c text inductionHypothesis =>
      rw [List.cons_append]
      unfold fractionDigits at isRead ⊢
      split at isRead
      · next digit isDigit =>
          dsimp only at isRead ⊢
          split at isRead
          · next fits =>
              rw [if_pos fits]
              exact inductionHypothesis _ _ isRead
          · next tooLong =>
              rw [if_neg tooLong]
              exact floatTail_skipDigits_inFront negative significand
                exponent isRead ends
      · exact floatTail_inFront negative significand exponent isRead ends

theorem fraction_inFront
    (exponent : Int) :
    ReadsInFront (fraction negative significand exponent) := by
  intro text value rest isRead ends
  cases text with
  | nil => cases isRead
  | cons c text =>
      rw [List.cons_append]
      unfold fraction at isRead ⊢
      dsimp only at isRead ⊢
      split at isRead
      · next isDigit =>
          rw [if_pos isDigit]
          exact fractionDigits_inFront negative significand exponent isRead ends
      · cases isRead

/-- A long number is complete where no digit and no fraction follows. -/
theorem longInteger_of_head
    (exponent : Int)
    {rest : List Char}
    (ends : ∀ c ∈ rest.head?, Decimal.isDigit c = false ∧ c ≠ '.') :
    longInteger negative significand exponent rest =
      floatTail negative significand exponent rest := by
  cases rest with
  | nil => rw [longInteger]
  | cons c after =>
      obtain ⟨noDigit, noPoint⟩ := ends c rfl
      rw [longInteger, if_neg noPoint]
      simp [noDigit]

theorem longInteger_inFront
    (exponent : Int) :
    ReadsInFront (longInteger negative significand exponent) := by
  intro text value rest isRead ends
  induction text generalizing exponent with
  | nil =>
      rw [List.nil_append, longInteger_of_head _ _ _ fun c isFirst =>
        ⟨(ends c isFirst).1, (ends c isFirst).2.1⟩]
      rw [longInteger] at isRead
      exact @floatTail_inFront negative significand exponent [] value
        rest isRead ends
  | cons c text inductionHypothesis =>
      rw [List.cons_append]
      unfold longInteger at isRead ⊢
      split at isRead
      · next isDigit =>
          rw [if_pos isDigit]
          exact inductionHypothesis _ isRead
      · next noDigit =>
          rw [if_neg noDigit]
          split at isRead
          · next isPoint =>
              rw [if_pos isPoint]
              exact fraction_inFront negative significand exponent isRead ends
          · next noPoint =>
              rw [if_neg noPoint]
              exact floatTail_inFront negative significand exponent isRead ends

theorem numberTail_inFront :
    ReadsInFront (numberTail negative significand) := by
  intro text value rest isRead ends
  cases text with
  | nil =>
      cases isRead
      exact numberTail_of_ends negative significand ends
  | cons c text =>
      rw [List.cons_append]
      unfold numberTail at isRead ⊢
      split at isRead
      · next isPoint =>
          obtain ⟨rfl, rfl⟩ := List.cons.inj isPoint
          exact fraction_inFront negative significand 0 isRead ends
      · next isLetter =>
          obtain ⟨rfl, rfl⟩ := List.cons.inj isLetter
          exact exponentPart_inFront negative significand 0 isRead ends
      · next isLetter =>
          obtain ⟨rfl, rfl⟩ := List.cons.inj isLetter
          exact exponentPart_inFront negative significand 0 isRead ends
      · cases isRead

theorem wholeDigits_of_noDigit
    {rest : List Char}
    (noDigit : Decimal.NoDigitAhead rest) :
    wholeDigits negative significand rest =
      numberTail negative significand rest := by
  cases rest with
  | nil => rw [wholeDigits]
  | cons c after =>
      rw [wholeDigits, Decimal.digit?_of_not_isDigit (noDigit c rfl)]

theorem wholeDigits_inFront :
    ReadsInFront (wholeDigits negative significand) := by
  intro text value rest isRead ends
  induction text generalizing significand with
  | nil =>
      rw [List.nil_append, wholeDigits_of_noDigit _ _ ends.noDigitAhead]
      rw [wholeDigits] at isRead
      exact @numberTail_inFront negative significand [] value rest isRead ends
  | cons c text inductionHypothesis =>
      rw [List.cons_append]
      unfold wholeDigits at isRead ⊢
      split at isRead
      · next digit isDigit =>
          dsimp only at isRead ⊢
          split at isRead
          · next fits =>
              rw [if_pos fits]
              exact inductionHypothesis _ isRead
          · next tooLong =>
              rw [if_neg tooLong]
              exact longInteger_inFront negative significand 1 isRead ends
      · exact numberTail_inFront negative significand isRead ends

end Readers

/-- A leading zero stands alone: no digit follows it. -/
theorem number_zero
    (negative : Bool)
    {rest : List Char}
    (noDigit : Decimal.NoDigitAhead rest) :
    number negative ('0' :: rest) = numberTail negative 0 rest := by
  cases rest with
  | nil => rfl
  | cons c after =>
      have notDigit : Decimal.isDigit c = false := noDigit c rfl
      simp [number, notDigit]

/-- A leading zero is refused in front of a digit. -/
theorem noDigitAhead_of_zero
    {negative : Bool}
    {text : List Char}
    {value : Json}
    {rest : List Char}
    (isRead : number negative ('0' :: text) = .ok (value, rest)) :
    Decimal.NoDigitAhead text := by
  intro c isFirst
  obtain ⟨after, rfl⟩ : ∃ after, text = c :: after :=
    List.head?_eq_some_iff.mp isFirst
  refine Bool.eq_false_iff.mpr fun isDigit => ?_
  simp [number, isDigit, stop] at isRead

theorem number_digit
    (negative : Bool)
    {first : Char}
    (notZero : first ≠ '0')
    (rest : List Char) :
    number negative (first :: rest) =
      match Decimal.digit? first with
      | some d => wholeDigits negative d rest
      | none => stop .invalidNumber (first :: rest) := by
  unfold number
  split
  · next shape => cases shape
  · next shape => exact (notZero (List.cons.inj shape).1).elim
  · next shape =>
      obtain ⟨rfl, rfl⟩ := List.cons.inj shape
      rfl

/--
A number that is a whole text is read in front of everything that does not
continue it.
-/
theorem number_inFront
    (negative : Bool) :
    ReadsInFront (number negative) := by
  intro text value rest isRead ends
  rcases text with _ | ⟨first, text⟩
  · cases isRead
  rw [List.cons_append]
  by_cases isZero : first = '0'
  · subst isZero
    have noDigit := noDigitAhead_of_zero isRead
    rw [number_zero negative noDigit] at isRead
    have noDigitAhead : Decimal.NoDigitAhead (text ++ rest) := by
      cases text with
      | nil => exact ends.noDigitAhead
      | cons c text => exact noDigit
    rw [number_zero negative noDigitAhead]
    exact numberTail_inFront negative 0 isRead ends
  · rw [number_digit negative isZero] at isRead
    rw [number_digit negative isZero]
    split at isRead
    · exact wholeDigits_inFront negative _ isRead ends
    · cases isRead

/-! ## Numbers without the rest -/

/--
A reader that reads what it has used up in the same way when nothing follows.
-/
def ReadsAlone
    (reader : List Char → Read Json) :
    Prop :=
  ∀ {text : List Char} {value : Json} {rest : List Char},
    reader text = .ok (value, rest) →
    ∃ used, text = used ++ rest ∧ reader used = .ok (value, [])

/-- What is used up after a character is used up together with it. -/
theorem exists_used_cons
    {reader inner : List Char → Read Json}
    {c : Char}
    (step : ∀ text, reader (c :: text) = inner text)
    (alone : ReadsAlone inner)
    {text : List Char}
    {value : Json}
    {rest : List Char}
    (isRead : inner text = .ok (value, rest)) :
    ∃ used, c :: text = used ++ rest ∧ reader used = .ok (value, []) := by
  obtain ⟨used, rfl, isAlone⟩ := alone isRead
  exact ⟨c :: used, rfl, (step used).trans isAlone⟩

/--
What is true of the first character of a text is true of that of a part in
front.
-/
theorem head?_of_append
    {property : Char → Prop}
    {used rest : List Char}
    (holds : ∀ c ∈ (used ++ rest).head?, property c) :
    ∀ c ∈ used.head?, property c := by
  cases used with
  | nil => rintro c (_ | _)
  | cons first others => exact holds

/--
A reader that hands on what begins without some characters uses up what the
other does.
-/
theorem alone_of_head
    {reader inner : List Char → Read Json}
    {property : Char → Prop}
    (same : ∀ {text : List Char}, (∀ c ∈ text.head?, property c) →
      reader text = inner text)
    (alone : ReadsAlone inner)
    {text : List Char}
    {value : Json}
    {rest : List Char}
    (holds : ∀ c ∈ text.head?, property c)
    (isRead : reader text = .ok (value, rest)) :
    ∃ used, text = used ++ rest ∧ reader used = .ok (value, []) := by
  rw [same holds] at isRead
  obtain ⟨used, rfl, isAlone⟩ := alone isRead
  exact ⟨used, rfl, (same (head?_of_append holds)).trans isAlone⟩

/-- A text is digits that are dropped, and a rest without one ahead. -/
theorem exists_dropped
    (text : List Char) :
    ∃ digits, text = digits ++ skipDigits text ∧ skipDigits digits = [] ∧
      Decimal.NoDigitAhead (skipDigits text) := by
  refine ⟨text.takeWhile Decimal.isDigit,
    (List.takeWhile_append_dropWhile).symm, ?_, ?_⟩
  · rw [skipDigits, List.dropWhile_eq_nil_iff]
    exact fun c isTaken => List.mem_takeWhile_imp isTaken
  · intro c isFirst
    rw [skipDigits, ← List.find?_not_eq_head?_dropWhile] at isFirst
    simpa using List.find?_some isFirst

section Alone

variable
  (negative : Bool)
  (significand : Nat)

theorem floatOfParts_alone
    {exponent : Int}
    {text : List Char}
    {value : Json}
    {rest : List Char}
    (isRead :
      floatOfParts negative significand exponent text = .ok (value, rest)) :
    text = rest ∧ floatOfParts negative significand exponent [] =
      .ok (value, []) := by
  unfold floatOfParts at isRead ⊢
  split at isRead
  · cases isRead
    exact ⟨rfl, rfl⟩
  · cases isRead

theorem exponentDigits_alone
    (start : Int)
    (downward : Bool)
    (gathered : Nat) :
    ReadsAlone (exponentDigits negative significand start downward
      gathered) := by
  intro text value rest isRead
  induction text generalizing gathered with
  | nil =>
      rw [exponentDigits_of_noDigit _ _ _ _ _ (by rintro c (_ | _))] at isRead
      obtain ⟨rfl, isAlone⟩ := floatOfParts_alone negative significand isRead
      exact ⟨[], rfl, isAlone⟩
  | cons c text inductionHypothesis =>
      unfold exponentDigits at isRead
      split at isRead
      · next digit isDigit =>
          dsimp only at isRead
          split at isRead
          · next fits =>
              obtain ⟨used, rfl, isAlone⟩ := inductionHypothesis _ isRead
              refine ⟨c :: used, rfl, ?_⟩
              rw [exponentDigits, isDigit]
              exact (if_pos fits).trans isAlone
          split at isRead
          · cases isRead
          · next tooLong notOut =>
              obtain ⟨rfl, rfl⟩ := Prod.mk.inj (Except.ok.inj isRead)
              obtain ⟨digits, shape, dropped, -⟩ := exists_dropped text
              refine ⟨c :: digits, congrArg (c :: ·) shape, ?_⟩
              rw [exponentDigits, isDigit]
              dsimp only
              rw [if_neg tooLong, if_neg notOut, dropped]
      · obtain ⟨rfl, isAlone⟩ := floatOfParts_alone negative significand isRead
        exact ⟨[], rfl, isAlone⟩

theorem unsignedExponent_alone
    (start : Int)
    (downward : Bool) :
    ReadsAlone (unsignedExponent negative significand start downward) := by
  intro text value rest isRead
  cases text with
  | nil => cases isRead
  | cons c text =>
      rw [unsignedExponent] at isRead
      cases digit : Decimal.digit? c with
      | none =>
          rw [digit] at isRead
          cases isRead
      | some d =>
          rw [digit] at isRead
          refine exists_used_cons ?_
            (exponentDigits_alone negative significand start downward d) isRead
          intro more
          rw [unsignedExponent, digit]

theorem exponentPart_alone
    (start : Int) :
    ReadsAlone (exponentPart negative significand start) := by
  intro text value rest isRead
  rcases text with _ | ⟨sign, text⟩
  · cases isRead
  by_cases upward : sign = '+'
  · subst upward
    rw [(exponentPart_signed _ _ _ _).1] at isRead
    exact exists_used_cons (fun more => (exponentPart_signed _ _ _ more).1)
      (unsignedExponent_alone negative significand start false) isRead
  by_cases downward : sign = '-'
  · subst downward
    rw [(exponentPart_signed _ _ _ _).2] at isRead
    exact exists_used_cons (fun more => (exponentPart_signed _ _ _ more).2)
      (unsignedExponent_alone negative significand start true) isRead
  have unsigned : ∀ c ∈ (sign :: text).head?, c ≠ '+' ∧ c ≠ '-' := by
    rintro c (_ | _)
    exact ⟨upward, downward⟩
  exact alone_of_head (exponentPart_unsigned negative significand start)
    (unsignedExponent_alone negative significand start false) unsigned isRead

theorem floatTail_alone
    (exponent : Int) :
    ReadsAlone (floatTail negative significand exponent) := by
  intro text value rest isRead
  unfold floatTail at isRead
  split at isRead
  · exact exists_used_cons (fun _ => rfl)
      (exponentPart_alone negative significand exponent) isRead
  · exact exists_used_cons (fun _ => rfl)
      (exponentPart_alone negative significand exponent) isRead
  · obtain ⟨rfl, isAlone⟩ := floatOfParts_alone negative significand isRead
    exact ⟨[], rfl, isAlone⟩

theorem floatTail_skipDigits_alone
    (exponent : Int) :
    ReadsAlone fun text =>
      floatTail negative significand exponent (skipDigits text) := by
  intro text value rest isRead
  obtain ⟨digits, shape, dropped, noDigit⟩ := exists_dropped text
  obtain ⟨used, left, isAlone⟩ :=
    floatTail_alone negative significand exponent isRead
  rw [left] at noDigit shape
  refine ⟨digits ++ used, by rw [shape, List.append_assoc], ?_⟩
  dsimp only
  rw [skipDigits_append digits (head?_of_append noDigit), dropped]
  exact isAlone

theorem fractionDigits_alone
    (exponent : Int) :
    ReadsAlone (fractionDigits negative significand exponent) := by
  intro text value rest isRead
  induction text generalizing significand exponent with
  | nil =>
      exact alone_of_head
        (fractionDigits_of_noDigit negative significand exponent)
        (floatTail_alone negative significand exponent)
        (by rintro c (_ | _)) isRead
  | cons c text inductionHypothesis =>
      cases digit : Decimal.digit? c with
      | none =>
          exact alone_of_head
            (fractionDigits_of_noDigit negative significand exponent)
            (floatTail_alone negative significand exponent)
            (Decimal.noDigitAhead_cons text
              (by rw [Decimal.isDigit, digit]; rfl)) isRead
      | some d =>
          rw [fractionDigits, digit] at isRead
          dsimp only at isRead
          split at isRead
          · next fits =>
              obtain ⟨used, rfl, isAlone⟩ := inductionHypothesis _ _ isRead
              refine ⟨c :: used, rfl, ?_⟩
              rw [fractionDigits, digit]
              exact (if_pos fits).trans isAlone
          · next tooLong =>
              refine exists_used_cons ?_
                (floatTail_skipDigits_alone negative significand exponent)
                  isRead
              intro more
              rw [fractionDigits, digit]
              exact if_neg tooLong

/-- The first digit of a fraction is taken, whether it fits or not. -/
theorem fraction_alone
    (exponent : Int) :
    ReadsAlone (fraction negative significand exponent) := by
  intro text value rest isRead
  rcases text with _ | ⟨c, text⟩
  · cases isRead
  by_cases isDigit : Decimal.isDigit c = true
  · obtain ⟨d, digit⟩ := Option.isSome_iff_exists.mp isDigit
    have step (more : List Char) :
        fraction negative significand exponent (c :: more) =
        if 10 * significand + d < significandLimit then
          fractionDigits negative (10 * significand + d) (exponent - 1) more
        else floatTail negative significand exponent (skipDigits more) := by
      rw [fraction, if_pos isDigit, fractionDigits, digit]
    rw [step] at isRead
    split at isRead
    · next fits =>
        exact exists_used_cons (fun more => (step more).trans (if_pos fits))
          (fractionDigits_alone negative _ (exponent - 1)) isRead
    · next tooLong =>
        exact exists_used_cons (fun more => (step more).trans (if_neg tooLong))
          (floatTail_skipDigits_alone negative significand exponent) isRead
  · rw [fraction, if_neg isDigit] at isRead
    cases isRead

theorem longInteger_alone
    (exponent : Int) :
    ReadsAlone (longInteger negative significand exponent) := by
  intro text value rest isRead
  induction text generalizing exponent with
  | nil =>
      exact alone_of_head (longInteger_of_head negative significand exponent)
        (floatTail_alone negative significand exponent)
          (by rintro c (_ | _)) isRead
  | cons c text inductionHypothesis =>
      by_cases isDigit : Decimal.isDigit c = true
      · rw [longInteger, if_pos isDigit] at isRead
        obtain ⟨used, rfl, isAlone⟩ := inductionHypothesis _ isRead
        refine ⟨c :: used, rfl, ?_⟩
        rw [longInteger, if_pos isDigit]
        exact isAlone
      by_cases isPoint : c = '.'
      · have step (more : List Char) :
            longInteger negative significand exponent (c :: more) =
            fraction negative significand exponent more := by
          rw [longInteger, if_neg isDigit, if_pos isPoint]
        rw [step] at isRead
        exact exists_used_cons step
          (fraction_alone negative significand exponent) isRead
      · refine alone_of_head (longInteger_of_head negative significand exponent)
          (floatTail_alone negative significand exponent) ?_ isRead
        rintro other (_ | _)
        exact ⟨Bool.eq_false_iff.mpr isDigit, isPoint⟩

theorem numberTail_alone :
    ReadsAlone (numberTail negative significand) := by
  intro text value rest isRead
  unfold numberTail at isRead
  split at isRead
  · exact exists_used_cons (fun _ => rfl)
      (fraction_alone negative significand 0) isRead
  · exact exists_used_cons (fun _ => rfl)
      (exponentPart_alone negative significand 0) isRead
  · exact exists_used_cons (fun _ => rfl)
      (exponentPart_alone negative significand 0) isRead
  · obtain ⟨rfl, rfl⟩ := Prod.mk.inj (Except.ok.inj isRead)
    exact ⟨[], rfl, rfl⟩

theorem wholeDigits_alone :
    ReadsAlone (wholeDigits negative significand) := by
  intro text value rest isRead
  induction text generalizing significand with
  | nil =>
      exact alone_of_head (wholeDigits_of_noDigit negative significand)
        (numberTail_alone negative significand) (by rintro c (_ | _)) isRead
  | cons c text inductionHypothesis =>
      cases digit : Decimal.digit? c with
      | none =>
          exact alone_of_head (wholeDigits_of_noDigit negative significand)
            (numberTail_alone negative significand)
            (Decimal.noDigitAhead_cons text
              (by rw [Decimal.isDigit, digit]; rfl)) isRead
      | some d =>
          rw [wholeDigits, digit] at isRead
          dsimp only at isRead
          split at isRead
          · next fits =>
              obtain ⟨used, rfl, isAlone⟩ := inductionHypothesis _ isRead
              refine ⟨c :: used, rfl, ?_⟩
              rw [wholeDigits, digit]
              exact (if_pos fits).trans isAlone
          · next tooLong =>
              refine exists_used_cons ?_
                (longInteger_alone negative significand 1) isRead
              intro more
              rw [wholeDigits, digit]
              exact if_neg tooLong

end Alone

/-- A number is a text of its own: what follows it has no part in it. -/
theorem number_alone
    (negative : Bool) :
    ReadsAlone (number negative) := by
  intro text value rest isRead
  rcases text with _ | ⟨first, text⟩
  · cases isRead
  by_cases isZero : first = '0'
  · subst isZero
    have noDigit : Decimal.NoDigitAhead text := noDigitAhead_of_zero isRead
    rw [number_zero negative noDigit] at isRead
    obtain ⟨used, rfl, isAlone⟩ := numberTail_alone negative 0 isRead
    exact ⟨'0' :: used, rfl,
      (number_zero negative (head?_of_append noDigit)).trans isAlone⟩
  · rw [number_digit negative isZero] at isRead
    split at isRead
    · next d isDigit =>
        refine exists_used_cons ?_ (wholeDigits_alone negative d) isRead
        intro more
        rw [number_digit negative isZero, isDigit]
    · cases isRead

end WorkflowQueue.Json
