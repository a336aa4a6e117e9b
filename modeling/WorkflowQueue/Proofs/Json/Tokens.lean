import WorkflowQueue.Json.Reader
import WorkflowQueue.Proofs.Digits

namespace WorkflowQueue.Json

/-!
# Tokens

How the reader takes the first token of a text: whole numbers in front of every
rest that does not look like the continuation of a number, and the character
with which a value begins. Blanks in front of a token are passed over.
-/

/-! ## Whole numbers -/

/-- A rest that does not continue a number. -/
def EndsNumber
    (rest : List Char) :
    Prop :=
  ∀ c ∈ rest.head?, Decimal.isDigit c = false ∧ c ≠ '.' ∧ c ≠ 'e' ∧ c ≠ 'E'

theorem EndsNumber.noDigitAhead
    {rest : List Char}
    (ends : EndsNumber rest) :
    Decimal.NoDigitAhead rest :=
  fun c isFirst => (ends c isFirst).1

/-- Nothing follows the digits of a whole number. -/
theorem numberTail_of_ends
    (negative : Bool)
    (significand : Nat)
    {rest : List Char}
    (ends : EndsNumber rest) :
    numberTail negative significand rest =
      .ok (wholeNumber negative significand, rest) := by
  unfold numberTail
  split
  · exact ((ends '.' rfl).2.1 rfl).elim
  · exact ((ends 'e' rfl).2.2.1 rfl).elim
  · exact ((ends 'E' rfl).2.2.2 rfl).elim
  · rfl

/-- Digits are gathered exactly as long as the number that they end in fits. -/
theorem wholeDigits_append
    (negative : Bool)
    {significand : Nat}
    {digits rest : List Char}
    (allDigits : Decimal.AllDigits digits)
    (fits : Nat.ofDigitChars 10 digits significand < significandLimit)
    (ends : EndsNumber rest) :
    wholeDigits negative significand (digits ++ rest) =
      .ok (wholeNumber negative (Nat.ofDigitChars 10 digits significand),
        rest) := by
  induction digits generalizing significand with
  | nil =>
      rw [List.nil_append, Nat.ofDigitChars_nil,
        ← numberTail_of_ends negative significand ends]
      cases rest with
      | nil =>
          rfl
      | cons c after =>
          have noDigit := Decimal.digit?_of_not_isDigit (ends c rfl).1
          simp [wholeDigits, noDigit]
  | cons c digits inductionHypothesis =>
      have value := Decimal.digit?_of_isDigit (allDigits c List.mem_cons_self)
      rw [Nat.ofDigitChars_cons] at fits ⊢
      have prefixFits :
          10 * significand + (c.toNat - '0'.toNat) < significandLimit :=
        Nat.lt_of_le_of_lt (Decimal.le_ofDigitChars digits _) fits
      rw [List.cons_append, wholeDigits, value]
      simp only [prefixFits, ↓reduceIte]
      exact inductionHypothesis
        (fun c member => allDigits c (List.mem_cons_of_mem _ member)) fits

/-- The digits of a number that fits are read back to it. -/
theorem number_toDigits
    (negative : Bool)
    {value : Nat}
    {rest : List Char}
    (fits : value < significandLimit)
    (ends : EndsNumber rest) :
    number negative (Nat.toDigits 10 value ++ rest) =
      .ok (wholeNumber negative value, rest) := by
  rcases Nat.eq_zero_or_pos value with isZero | positive
  · subst isZero
    rw [Nat.toDigits_zero, ← numberTail_of_ends negative 0 ends]
    cases rest with
    | nil =>
        rfl
    | cons c after =>
        simp [number, (ends c rfl).1]
  · obtain ⟨first, digits, shape, notZero⟩ := Decimal.toDigits_eq_cons positive
    have allDigits : Decimal.AllDigits (first :: digits) :=
      shape ▸ Decimal.allDigits_toDigits value
    have firstValue :=
      Decimal.digit?_of_isDigit (allDigits first List.mem_cons_self)
    have whole :
        Nat.ofDigitChars 10 digits (first.toNat - '0'.toNat) = value := by
      have read : Nat.ofDigitChars 10 (Nat.toDigits 10 value) 0 = value :=
        Nat.ofDigitChars_toDigits (by omega) (by omega)
      rw [shape, Nat.ofDigitChars_cons] at read
      simpa using read
    rw [shape, List.cons_append, number]
    · rw [firstValue]
      simp only
      rw [wholeDigits_append negative
        (fun c member => allDigits c (List.mem_cons_of_mem _ member))
          (whole ▸ fits) ends, whole]
    · exact notZero

/-- A whole number is the one that its sign and magnitude denote. -/
theorem wholeNumber_eq
    (number : WideInteger) :
    wholeNumber (number.value < 0) number.value.natAbs = .integer number := by
  have signed :
      (if decide (number.value < 0) = true then Int.negOfNat number.value.natAbs
      else (number.value.natAbs : Int)) = number.value := by
    by_cases negative : number.value < 0
    · simp only [negative, decide_true, ↓reduceIte, Int.negOfNat_eq,
        Int.ofNat_eq_natCast]
      omega
    · simp only [negative, decide_false, Bool.false_eq_true, ↓reduceIte]
      omega
  have fits : WideInteger.ofInt? number.value = some number := by
    simp only [WideInteger.ofInt?, number.inRange, and_self, ↓reduceDIte]
  have notMinusZero :
      ¬ (decide (number.value < 0) = true ∧ number.value.natAbs = 0) := by
    simp only [decide_eq_true_eq]
    omega
  unfold wholeNumber
  dsimp only
  rw [signed, fits]
  exact if_neg notMinusZero

/-! ## Tokens of a value -/

/-- A text whose first character is no blank. -/
theorem skipBlanks_cons
    {c : Char}
    (rest : List Char)
    (visible : isBlank c = false) :
    skipBlanks (c :: rest) = c :: rest := by
  simp [skipBlanks, visible]

/-- Blanks in front of a text are dropped. -/
theorem skipBlanks_append
    {blanks : List Char}
    (text : List Char)
    (allBlank : ∀ c ∈ blanks, isBlank c = true) :
    skipBlanks (blanks ++ text) = skipBlanks text :=
  List.dropWhile_append_of_pos allBlank

/-- Blanks in front of a value are passed over. -/
theorem value_append
    (rounds depth : Nat)
    {blanks : List Char}
    (text : List Char)
    (allBlank : ∀ c ∈ blanks, isBlank c = true) :
    value rounds depth (blanks ++ text) = value rounds depth text := by
  rw [value.eq_def, skipBlanks_append text allBlank, ← value.eq_def]

/-- The characters that a digit is not. -/
theorem ne_of_isDigit
    {c : Char}
    (isDigit : Decimal.isDigit c = true) :
    ∀ other ∈ ['n', 't', 'f', '-', ' ', '\n', '\t', '\r', ']'], c ≠ other := by
  have noneIsDigit : ['n', 't', 'f', '-', ' ', '\n', '\t', '\r', ']'].all
      (fun other => !Decimal.isDigit other) = true := by
    decide
  rintro other member rfl
  have notDigit := List.all_eq_true.mp noneIsDigit c member
  rw [isDigit] at notDigit
  cases notDigit

/-- A digit begins a number. -/
theorem value_digit
    (rounds depth : Nat)
    {first : Char}
    (rest : List Char)
    (isDigit : Decimal.isDigit first = true) :
    value rounds depth (first :: rest) = number false (first :: rest) := by
  have others := ne_of_isDigit isDigit
  simp only [List.mem_cons, List.not_mem_nil, or_false, ne_eq,
    forall_eq_or_imp, forall_eq]
    at others
  have visible : isBlank first = false := by
    simp [isBlank, others]
  rw [value.eq_def, skipBlanks_cons rest visible]
  simp [others, isDigit]

/-- A minus sign begins a negative number. -/
theorem value_minus
    (rounds depth : Nat)
    (rest : List Char) :
    value rounds depth ('-' :: rest) = number true rest := by
  rw [value.eq_def]
  rfl

/-- A bracket begins an array. -/
theorem value_bracket
    (rounds inner : Nat)
    (rest : List Char) :
    value rounds (inner + 1) ('[' :: rest) =
      (arrayBody (value rounds inner) rounds rest).map fun (items, after) =>
        (.array items, after) := by
  rw [value.eq_def]
  rfl

/-- A brace begins an object. -/
theorem value_brace
    (rounds inner : Nat)
    (rest : List Char) :
    value rounds (inner + 1) ('\x7b' :: rest) =
      (objectBody (value rounds inner) rounds rest).map fun (items, after) =>
        (.object items, after) := by
  rw [value.eq_def]
  rfl

end WorkflowQueue.Json
