import WorkflowQueue.Number.Decimal
import WorkflowQueue.Time.Timestamp

namespace WorkflowQueue

/-!
# Digits that were written

Whole numbers are written with `Nat.toDigits` or with a fixed count of digits.
Either way the text holds digits only, and its value, read from the left, is the
number. The readers of this library stop at the first character that is no
digit, which is why `NoDigitAhead` stands in front of most statements about
them.
-/

namespace Decimal

/-- A text that holds digits only. -/
def AllDigits
    (text : List Char) :
    Prop :=
  ∀ c ∈ text, isDigit c = true

/-- A text that does not go on with a digit. -/
def NoDigitAhead
    (text : List Char) :
    Prop :=
  ∀ c ∈ text.head?, isDigit c = false

theorem isDigit_eq
    (c : Char) :
    isDigit c = c.isDigit := by
  by_cases inRange : '0' ≤ c ∧ c ≤ '9'
  · simp only [isDigit, digit?, inRange, and_self, ↓reduceIte,
      Option.isSome_some]
    exact (Bool.and_eq_true_iff.mpr ⟨decide_eq_true inRange.1,
      decide_eq_true inRange.2⟩).symm
  · simp only [isDigit, digit?, inRange, ↓reduceIte, Option.isSome_none]
    refine (Bool.eq_false_iff.mpr fun digit => inRange ?_).symm
    obtain ⟨low, high⟩ := Bool.and_eq_true_iff.mp digit
    exact ⟨of_decide_eq_true low, of_decide_eq_true high⟩

theorem noDigitAhead_cons
    {c : Char}
    (rest : List Char)
    (noDigit : isDigit c = false) :
    NoDigitAhead (c :: rest) := by
  intro other isFirst
  rw [← Option.mem_some.mp isFirst]
  exact noDigit

theorem noDigitAhead_dropWhile
    (text : List Char) :
    NoDigitAhead (text.dropWhile isDigit) := by
  intro c isFirst
  have stops := List.head?_dropWhile_not isDigit text
  rw [Option.mem_def.mp isFirst] at stops
  exact stops

namespace NoDigitAhead

variable
  {text : List Char}
  (noDigitAhead : NoDigitAhead text)

include noDigitAhead

theorem takeWhile_eq :
    text.takeWhile isDigit = [] := by
  cases text with
  | nil => rfl
  | cons c rest => simp [noDigitAhead c rfl]

theorem dropWhile_eq :
    text.dropWhile isDigit = text := by
  cases text with
  | nil => rfl
  | cons c rest => simp [noDigitAhead c rfl]

end NoDigitAhead

/-- The value of a digit is its distance from zero. -/
theorem digit?_of_isDigit
    {c : Char}
    (digit : isDigit c = true) :
    digit? c = some (c.toNat - '0'.toNat) := by
  unfold isDigit at digit
  unfold digit? at digit ⊢
  split
  · rfl
  · next outside =>
      simp [outside] at digit

theorem digit?_of_not_isDigit
    {c : Char}
    (noDigit : isDigit c = false) :
    digit? c = none := by
  simpa [isDigit] using noDigit

/-- Ten or fewer values are written with one digit each. -/
theorem digit?_digitChar
    {value : Nat}
    (below : value < 10) :
    digit? (Nat.digitChar value) = some value := by
  revert value
  decide

/-- A digit is the character of its value. -/
theorem eq_digitChar_of_digit?
    {c : Char}
    {value : Nat}
    (isValue : digit? c = some value) :
    value < 10 ∧ c = Nat.digitChar value := by
  unfold digit? at isValue
  split at isValue
  · next inRange =>
      cases isValue
      have low : 48 ≤ c.toNat := UInt32.le_iff_toNat_le.mp inRange.1
      have high : c.toNat ≤ 57 := UInt32.le_iff_toNat_le.mp inRange.2
      have zero : '0'.toNat = 48 := rfl
      have below : c.toNat - '0'.toNat < 10 := by omega
      refine ⟨below, Char.toNat_inj.mp ?_⟩
      rw [Nat.toNat_digitChar_of_lt_ten below]
      omega
  · cases isValue

theorem isDigit_digitChar
    {value : Nat}
    (below : value < 10) :
    isDigit (Nat.digitChar value) = true := by
  simp [isDigit, digit?_digitChar below]

theorem AllDigits.append
    {first second : List Char}
    (firstDigits : AllDigits first)
    (secondDigits : AllDigits second) :
    AllDigits (first ++ second) := by
  intro c member
  rcases List.mem_append.mp member with inFirst | inSecond
  · exact firstDigits c inFirst
  · exact secondDigits c inSecond

/-! ## What is written -/

theorem allDigits_toDigits
    (value : Nat) :
    AllDigits (Nat.toDigits 10 value) := by
  intro c member
  rw [isDigit_eq]
  exact Nat.isDigit_of_mem_toDigits (by omega) (Nat.le_refl 10) member

/-- The first digit of a positive number is not zero. -/
theorem toDigits_eq_cons
    {value : Nat}
    (positive : 0 < value) :
    ∃ first rest, Nat.toDigits 10 value = first :: rest ∧ first ≠ '0' := by
  induction value using Nat.strongRecOn with
  | ind value inductionHypothesis =>
      rw [Nat.toDigits_eq_if (by omega)]
      by_cases single : value < 10
      · refine ⟨Nat.digitChar value, [], by simp [single], ?_⟩
        rw [Ne, Nat.digitChar_eq_zero]
        omega
      · obtain ⟨first, rest, shape, notZero⟩ :=
          inductionHypothesis (value / 10) (by omega) (by omega)
        exact ⟨first, rest ++ [Nat.digitChar (value % 10)],
          by simp [single, shape], notZero⟩

/-- Read from the left, digits never lower the number that they continue. -/
theorem le_ofDigitChars
    (text : List Char)
    (value : Nat) :
    value ≤ Nat.ofDigitChars 10 text value := by
  rw [Nat.ofDigitChars_eq_ofDigitChars_zero]
  exact Nat.le_add_right_of_le
    (Nat.le_mul_of_pos_left value (Nat.pow_pos (by omega)))

/-- The value of digits that continue a number. -/
theorem continue?_eq
    {text : List Char}
    (digits : AllDigits text)
    (value : Nat) :
    continue? value text = some (Nat.ofDigitChars 10 text value) := by
  induction text generalizing value with
  | nil =>
      rfl
  | cons c rest inductionHypothesis =>
      rw [continue?, digit?_of_isDigit (digits c List.mem_cons_self)]
      simp only [Nat.ofDigitChars_cons]
      exact inductionHypothesis
        (fun other member => digits other (List.mem_cons_of_mem c member)) _

/-- The value of one or more digits. -/
theorem value?_eq
    {text : List Char}
    (digits : AllDigits text)
    (notEmpty : text ≠ []) :
    value? text = some (Nat.ofDigitChars 10 text 0) := by
  cases text with
  | nil =>
      exact (notEmpty rfl).elim
  | cons c rest =>
      exact continue?_eq digits 0

/-- Only digits have a value. -/
theorem allDigits_of_continue?
    {text : List Char}
    {start value : Nat}
    (isValue : continue? start text = some value) :
    AllDigits text := by
  induction text generalizing start with
  | nil => exact List.forall_mem_nil _
  | cons c rest inductionHypothesis =>
      rw [continue?] at isValue
      split at isValue
      · next digit isDigit =>
          refine List.forall_mem_cons.mpr ⟨?_, inductionHypothesis isValue⟩
          rw [Decimal.isDigit, isDigit]
          rfl
      · cases isValue

/-- One or more digits have a value, and nothing else has. -/
theorem value?_eq_some_iff
    {text : List Char}
    {value : Nat} :
    value? text = some value ↔
      text ≠ [] ∧ AllDigits text ∧ Nat.ofDigitChars 10 text 0 = value := by
  constructor
  · intro isValue
    have notEmpty : text ≠ [] := by
      rintro rfl
      cases isValue
    have digits : AllDigits text := by
      rw [value?.eq_def] at isValue
      split at isValue
      · cases isValue
      · exact allDigits_of_continue? isValue
    rw [value?_eq digits notEmpty] at isValue
    exact ⟨notEmpty, digits, Option.some.inj isValue⟩
  · rintro ⟨notEmpty, digits, rfl⟩
    exact value?_eq digits notEmpty

/-- Digits that continue a number keep it below the next number so continued. -/
theorem ofDigitChars_lt
    {text : List Char}
    (digits : AllDigits text)
    (start : Nat) :
    Nat.ofDigitChars 10 text start < (start + 1) * Nat.pow 10 text.length := by
  induction text generalizing start with
  | nil => simp
  | cons c rest inductionHypothesis =>
      have digit := digits c List.mem_cons_self
      rw [isDigit_eq, Char.isDigit, Bool.and_eq_true] at digit
      have high : c.toNat ≤ '9'.toNat := of_decide_eq_true digit.2
      have nine : '9'.toNat - '0'.toNat = 9 := rfl
      rw [Nat.ofDigitChars_cons]
      calc Nat.ofDigitChars 10 rest (10 * start + (c.toNat - '0'.toNat))
        _ < (10 * start + (c.toNat - '0'.toNat) + 1) * Nat.pow 10 rest.length :=
          inductionHypothesis
            (fun other isLater =>
              digits other (List.mem_cons_of_mem c isLater)) _
        _ ≤ (start + 1) * 10 * Nat.pow 10 rest.length :=
          Nat.mul_le_mul_right _ (by omega)
        _ = (start + 1) * Nat.pow 10 (c :: rest).length := by
          rw [Nat.mul_assoc, Nat.mul_comm 10]
          rfl

/-- A number is read back from its digits. -/
theorem value?_text
    (value : Nat) :
    value? (text value) = some value := by
  unfold text
  rw [value?_eq (allDigits_toDigits value) Nat.toDigits_ne_nil,
    Nat.ofDigitChars_toDigits (by omega) (by omega)]

end Decimal

namespace Timestamp

theorem length_fixedDigits
    (count value : Nat) :
    (fixedDigits count value).length = count := by
  induction count generalizing value with
  | zero =>
      rfl
  | succ count inductionHypothesis =>
      simp [fixedDigits, inductionHypothesis]

theorem allDigits_fixedDigits
    (count value : Nat) :
    Decimal.AllDigits (fixedDigits count value) := by
  induction count generalizing value with
  | zero =>
      intro c member
      simp [fixedDigits] at member
  | succ count inductionHypothesis =>
      refine (inductionHypothesis (value / 10)).append ?_
      intro c member
      rw [List.mem_singleton.mp member]
      exact Decimal.isDigit_digitChar (Nat.mod_lt value (by omega))

/-- A fixed count of digits holds the number as far as they reach. -/
theorem ofDigitChars_fixedDigits
    (count value : Nat) :
    Nat.ofDigitChars 10 (fixedDigits count value) 0 =
      value % Nat.pow 10 count := by
  induction count generalizing value with
  | zero =>
      simp [fixedDigits, Nat.mod_one]
  | succ count inductionHypothesis =>
      have last : value % 10 < 10 := Nat.mod_lt value (by omega)
      have power : Nat.pow 10 (count + 1) = 10 * Nat.pow 10 count :=
        Nat.mul_comm (Nat.pow 10 count) 10
      rw [fixedDigits, Nat.ofDigitChars_append, inductionHypothesis,
        Nat.ofDigitChars_cons_digitChar_of_lt_ten last, Nat.ofDigitChars_nil,
        power, Nat.mod_mul, Nat.add_comm]

/-- Two digits are the digits of a number below a hundred. -/
theorem twoDigits_eq
    (value : Nat) :
    twoDigits value = fixedDigits 2 value := by
  rfl

end Timestamp

end WorkflowQueue
