import WorkflowQueue.Proofs.Digits
import WorkflowQueue.Time.Rfc3339

namespace WorkflowQueue

/-!
# Timestamps that were written

The text of a timestamp is one of the many forms that are read, and it reads
back to the same instant: in every year of the calendar, with any fraction of a
second, and in a leap second. One lemma for each part of the text says what its
reader makes of it in front of the parts that follow.
-/

namespace Rfc3339

theorem isWhiteSpace_of_isDigit
    {c : Char}
    (digit : Decimal.isDigit c = true) :
    Text.isWhiteSpace c = false := by
  rw [Decimal.isDigit_eq, Char.isDigit, Bool.and_eq_true_iff] at digit
  have low : 48 ≤ c.toNat := of_decide_eq_true digit.1
  have high : c.toNat ≤ 57 := of_decide_eq_true digit.2
  simp [Text.isWhiteSpace]
  omega

/-- No white space is dropped in front of digits. -/
theorem skipWhiteSpace_digits
    {digits : List Char}
    (rest : List Char)
    (allDigits : Decimal.AllDigits digits)
    (notEmpty : digits ≠ []) :
    Text.skipWhiteSpace (digits ++ rest) = digits ++ rest := by
  cases digits with
  | nil =>
      exact (notEmpty rfl).elim
  | cons first more =>
      have noBlank :=
        isWhiteSpace_of_isDigit (allDigits first List.mem_cons_self)
      simp [Text.skipWhiteSpace, noBlank]

/--
Digits are taken up to the limit or up to the first character that is none.
-/
theorem takeDigits_append
    {limit : Nat}
    {digits rest : List Char}
    (allDigits : Decimal.AllDigits digits)
    (within : digits.length ≤ limit)
    (ends : digits.length = limit ∨ Decimal.NoDigitAhead rest) :
    takeDigits limit (digits ++ rest) = (digits, rest) := by
  induction digits generalizing limit with
  | nil =>
      cases limit with
      | zero =>
          rfl
      | succ limit =>
          cases rest with
          | nil =>
              rfl
          | cons c after =>
              have noDigit : Decimal.isDigit c = false := by
                rcases ends with full | noDigitAhead
                · simp at full
                · exact noDigitAhead c rfl
              simp [takeDigits, noDigit]
  | cons first more inductionHypothesis =>
      obtain ⟨limit, rfl⟩ : ∃ smaller, limit = smaller + 1 :=
        Nat.exists_eq_add_of_le' (Nat.le_trans (by simp) within)
      have isDigit := allDigits first List.mem_cons_self
      have taken := inductionHypothesis
        (fun c member => allDigits c (List.mem_cons_of_mem first member))
        (Nat.le_of_succ_le_succ within)
        (ends.imp_left Nat.succ.inj)
      simp [takeDigits, isDigit, taken]

/-- A number is read from its digits. -/
theorem number_append
    {limit : Nat}
    {digits rest : List Char}
    (allDigits : Decimal.AllDigits digits)
    (notEmpty : digits ≠ [])
    (within : digits.length ≤ limit)
    (ends : digits.length = limit ∨ Decimal.NoDigitAhead rest) :
    number limit (digits ++ rest) =
      .ok (Nat.ofDigitChars 10 digits 0, rest) := by
  rw [number, skipWhiteSpace_digits rest allDigits notEmpty,
    takeDigits_append allDigits within ends]
  simp [numberOf, Decimal.value?_eq allDigits notEmpty]

/-- A number of two digits is read where it lies in its range. -/
theorem bounded_twoDigits
    {low high value : Nat}
    (rest : List Char)
    (below : value < 100)
    (inRange : low ≤ value ∧ value ≤ high) :
    bounded low high (Timestamp.twoDigits value ++ rest) =
      .ok (value, rest) := by
  have read : number 2 (Timestamp.fixedDigits 2 value ++ rest) =
      .ok (Nat.ofDigitChars 10 (Timestamp.fixedDigits 2 value) 0, rest) :=
    number_append (Timestamp.allDigits_fixedDigits 2 value)
      (List.ne_nil_of_length_pos (by simp [Timestamp.length_fixedDigits]))
      (by simp [Timestamp.length_fixedDigits])
      (Or.inl (Timestamp.length_fixedDigits 2 value))
  have whole : value % Nat.pow 10 2 = value := Nat.mod_eq_of_lt below
  rw [bounded, Timestamp.twoDigits_eq, read,
    Timestamp.ofDigitChars_fixedDigits, whole]
  exact if_pos inRange

theorem separator_cons
    {mark : Char}
    (rest : List Char)
    (visible : Text.isWhiteSpace mark = false) :
    separator mark (mark :: rest) = .ok rest := by
  simp [separator, Text.skipWhiteSpace, visible]

/-! ## Years -/

/-- A sign is read with all digits that follow it. -/
theorem numberOf_digits
    {digits rest : List Char}
    (allDigits : Decimal.AllDigits digits)
    (notEmpty : digits ≠ [])
    (noDigitAhead : Decimal.NoDigitAhead rest) :
    numberOf ((digits ++ rest).takeWhile Decimal.isDigit)
        ((digits ++ rest).dropWhile Decimal.isDigit) =
      .ok (Nat.ofDigitChars 10 digits 0, rest) := by
  rw [List.takeWhile_append_of_pos allDigits,
    List.dropWhile_append_of_pos allDigits, noDigitAhead.takeWhile_eq,
    noDigitAhead.dropWhile_eq, List.append_nil]
  simp [numberOf, Decimal.value?_eq allDigits notEmpty]

/-- The digits of a year beyond four digits, filled up with zeros. -/
theorem paddedYear
    (magnitude : Nat) :
    let digits := List.replicate (4 - (Nat.toDigits 10 magnitude).length) '0' ++
      Nat.toDigits 10 magnitude
    Decimal.AllDigits digits ∧ digits ≠ [] ∧
      Nat.ofDigitChars 10 digits 0 = magnitude := by
  refine
    ⟨Decimal.AllDigits.append ?_ (Decimal.allDigits_toDigits magnitude), ?_, ?_⟩
  · intro c member
    rw [List.eq_of_mem_replicate member]
    decide
  · simp [Nat.toDigits_ne_nil]
  · rw [Nat.ofDigitChars_append, Nat.ofDigitChars_replicate_zero, Nat.mul_zero,
      Nat.ofDigitChars_toDigits (by omega) (by omega)]

/-- A year without a sign is a number of at most four digits. -/
theorem year_of_digits
    {digits rest : List Char}
    {value : Nat}
    (allDigits : Decimal.AllDigits digits)
    (notEmpty : digits ≠ [])
    (read : number 4 (digits ++ rest) = .ok (value, rest)) :
    year (digits ++ rest) = .ok ((value : Int), rest) := by
  obtain ⟨first, more, shape⟩ := List.exists_cons_of_ne_nil notEmpty
  have isDigit : Decimal.isDigit first = true :=
    allDigits first (by simp [shape])
  have notMinus : first ≠ '-' := by
    rintro rfl
    exact absurd isDigit (by decide)
  have notPlus : first ≠ '+' := by
    rintro rfl
    exact absurd isDigit (by decide)
  unfold year
  rw [skipWhiteSpace_digits rest allDigits notEmpty]
  split
  · next after same =>
      rw [shape] at same
      exact (notMinus (List.cons.inj same).1).elim
  · next after same =>
      rw [shape] at same
      exact (notPlus (List.cons.inj same).1).elim
  · rw [read]
    rfl

/-- A year before year zero is written with a minus sign. -/
theorem year_minus
    {text rest : List Char}
    {magnitude : Nat}
    (within : magnitude ≤ 2147483648)
    (read : numberOf (text.takeWhile Decimal.isDigit)
        (text.dropWhile Decimal.isDigit) =
      .ok (magnitude, rest)) :
    year ('-' :: text) = .ok (Int.negOfNat magnitude, rest) := by
  unfold year
  change
    (numberOf (text.takeWhile Decimal.isDigit)
      (text.dropWhile Decimal.isDigit)).bind _ = _
  rw [read]
  exact if_pos within

/-- A year beyond four digits is written with a plus sign. -/
theorem year_plus
    {text rest : List Char}
    {magnitude : Nat}
    (within : magnitude < 2147483648)
    (read : numberOf (text.takeWhile Decimal.isDigit)
        (text.dropWhile Decimal.isDigit) =
      .ok (magnitude, rest)) :
    year ('+' :: text) = .ok ((magnitude : Int), rest) := by
  unfold year
  change
    (numberOf (text.takeWhile Decimal.isDigit)
      (text.dropWhile Decimal.isDigit)).bind _ = _
  rw [read]
  exact if_pos within

/-- A year of the calendar is read from its text. -/
theorem year_yearText
    {number : Int}
    (inRange : firstYear ≤ number ∧ number ≤ lastYear)
    {rest : List Char}
    (noDigitAhead : Decimal.NoDigitAhead rest) :
    year (Timestamp.yearText number ++ rest) = .ok (number, rest) := by
  unfold firstYear lastYear at inRange
  unfold Timestamp.yearText
  split
  · next fourDigits =>
      have whole : number.natAbs % Nat.pow 10 4 = number.natAbs :=
        Nat.mod_eq_of_lt (show number.natAbs < 10000 by omega)
      have digits := Timestamp.allDigits_fixedDigits 4 number.natAbs
      have notEmpty : Timestamp.fixedDigits 4 number.natAbs ≠ [] :=
        List.ne_nil_of_length_pos (by simp [Timestamp.length_fixedDigits])
      have read :
          Rfc3339.number 4 (Timestamp.fixedDigits 4 number.natAbs ++ rest) =
          .ok (number.natAbs, rest) := by
        rw [number_append digits notEmpty
          (by simp [Timestamp.length_fixedDigits]) (Or.inr noDigitAhead),
            Timestamp.ofDigitChars_fixedDigits, whole]
      have same : (number.natAbs : Int) = number := by
        omega
      rw [year_of_digits digits notEmpty read, same]
  · next signed =>
      obtain ⟨digits, notEmpty, value⟩ := paddedYear number.natAbs
      have read := numberOf_digits digits notEmpty noDigitAhead
      rw [value] at read
      by_cases negative : number < 0
      · have same : Int.negOfNat number.natAbs = number := by
          rw [Int.negOfNat_eq, Int.ofNat_eq_natCast]
          omega
        simp only [negative, ↓reduceIte, List.cons_append]
        rw [year_minus (by omega) read, same]
      · have same : (number.natAbs : Int) = number := by
          omega
        simp only [negative, ↓reduceIte, List.cons_append]
        rw [year_plus (by omega) read, same]

/-! ## Fractions of a second -/

/-- A fraction of at most nine digits counts nanoseconds. -/
theorem fraction_digits
    {count : Nat}
    (value : Nat)
    {rest : List Char}
    (positive : 0 < count)
    (within : count ≤ 9)
    (noDigitAhead : Decimal.NoDigitAhead rest) :
    fraction ('.' :: (Timestamp.fixedDigits count value ++ rest)) =
      .ok (value % Nat.pow 10 count * Nat.pow 10 (9 - count), rest) := by
  have length := Timestamp.length_fixedDigits count value
  have digits := Timestamp.allDigits_fixedDigits count value
  have notEmpty : Timestamp.fixedDigits count value ≠ [] :=
    List.ne_nil_of_length_pos (by omega)
  simp only [fraction]
  rw [takeDigits_append digits (by omega) (Or.inr noDigitAhead)]
  simp only [numberOf, Decimal.value?_eq digits notEmpty, length,
    Timestamp.ofDigitChars_fixedDigits]
  exact congrArg (fun after => Except.ok (_, after)) noDigitAhead.dropWhile_eq

/--
The fraction of a second is read from its text, however many digits it needs.
-/
theorem fraction_fractionText
    {nanosecond : Nat}
    (below : nanosecond < 1000000000)
    {rest : List Char}
    (noDigitAhead : Decimal.NoDigitAhead rest)
    (noPoint : rest.head? ≠ some '.') :
    fraction (Timestamp.fractionText nanosecond ++ rest) =
      .ok (nanosecond, rest) := by
  unfold Timestamp.fractionText
  split
  · next none =>
      subst none
      cases rest with
      | nil =>
          rfl
      | cons c after =>
          have notPoint : c ≠ '.' := by
            simpa using noPoint
          simp [fraction, notPoint]
  split
  · next milliseconds =>
      have exactly :
          nanosecond / 1000000 % Nat.pow 10 3 * Nat.pow 10 (9 - 3) =
            nanosecond :=
        show nanosecond / 1000000 % 1000 * 1000000 = nanosecond by omega
      rw [List.cons_append,
        fraction_digits _ (by omega) (by omega) noDigitAhead, exactly]
  split
  · next microseconds =>
      have exactly :
          nanosecond / 1000 % Nat.pow 10 6 * Nat.pow 10 (9 - 6) = nanosecond :=
        show nanosecond / 1000 % 1000000 * 1000 = nanosecond by omega
      rw [List.cons_append,
        fraction_digits _ (by omega) (by omega) noDigitAhead, exactly]
  · have exactly :
        nanosecond % Nat.pow 10 9 * Nat.pow 10 (9 - 9) = nanosecond :=
      show nanosecond % 1000000000 * 1 = nanosecond by omega
    rw [List.cons_append,
      fraction_digits _ (by omega) (by omega) noDigitAhead, exactly]

/-! ## Whole timestamps -/

/-- Whether a timestamp lies in a leap second. -/
def leap
    (timestamp : Timestamp) :
    Nat :=
  if 1000000000 ≤ timestamp.nanosecond then 1 else 0

/-- The numbers that the text of a timestamp holds. -/
def fieldsOf
    (timestamp : Timestamp) :
    Fields where
  year := timestamp.date.year
  month := timestamp.date.month
  day := timestamp.date.day
  hour := timestamp.second / 3600
  minute := timestamp.second / 60 % 60
  second := timestamp.second % 60 + leap timestamp
  nanosecond := timestamp.nanosecond - leap timestamp * 1000000000
  zone := 0

/-- A day's number has at most two digits. -/
theorem day_lt
    (date : Date) :
    date.day < 32 := by
  have inMonth := date.dayInRange.2
  have short : daysInMonth date.year date.month ≤ 31 := by
    unfold daysInMonth
    split
    · split <;> omega
    all_goals omega
  omega

theorem leap_le_one
    (timestamp : Timestamp) :
    leap timestamp ≤ 1 := by
  unfold leap
  split <;> omega

theorem nanosecond_sub_lt
    (timestamp : Timestamp) :
    timestamp.nanosecond - leap timestamp * 1000000000 < 1000000000 := by
  have inRange := timestamp.nanosecondInRange
  unfold leap
  split <;> omega

/-- The text of a timestamp, part by part. -/
theorem toList_text
    (timestamp : Timestamp) :
    timestamp.text.toList =
      Timestamp.yearText timestamp.date.year ++
        '-' :: (Timestamp.twoDigits timestamp.date.month ++
        '-' :: (Timestamp.twoDigits timestamp.date.day ++
        'T' :: (Timestamp.twoDigits (timestamp.second / 3600) ++
        ':' :: (Timestamp.twoDigits (timestamp.second / 60 % 60) ++
        ':' :: (Timestamp.twoDigits (timestamp.second % 60 + leap timestamp) ++
        (Timestamp.fractionText
            (timestamp.nanosecond - leap timestamp * 1000000000) ++
          ['Z'])))))) := by
  simp only [Timestamp.text, leap, String.toList_ofList, List.append_assoc,
    List.cons_append]

/--
The numbers of a text are those that its parts hold, one part after another.
-/
theorem fields_of_parts
    {numbers : Fields}
    {text afterYear monthText afterMonth dayText afterDay hourText afterHour
      minuteText afterMinute secondText fractionText zoneText rest : List Char}
    (readYear : year text = .ok (numbers.year, afterYear))
    (readFirstHyphen : separator '-' afterYear = .ok monthText)
    (readMonth : bounded 1 12 monthText = .ok (numbers.month, afterMonth))
    (readSecondHyphen : separator '-' afterMonth = .ok dayText)
    (readDay : bounded 1 31 dayText = .ok (numbers.day, afterDay))
    (readMark : timeMark afterDay = .ok hourText)
    (readHour : bounded 0 23 hourText = .ok (numbers.hour, afterHour))
    (readFirstColon : separator ':' afterHour = .ok minuteText)
    (readMinute : bounded 0 59 minuteText = .ok (numbers.minute, afterMinute))
    (readSecondColon : separator ':' afterMinute = .ok secondText)
    (readSecond : bounded 0 60 secondText = .ok (numbers.second, fractionText))
    (readFraction : fraction fractionText = .ok (numbers.nanosecond, zoneText))
    (readZone : zone zoneText = .ok (numbers.zone, rest))
    (nothingLeft : Text.skipWhiteSpace rest = []) :
    fields text = .ok numbers := by
  rw [fields]
  simp only [bind, Except.bind, readYear, readFirstHyphen, readMonth,
    readSecondHyphen, readDay, readMark, readHour, readFirstColon, readMinute,
    readSecondColon, readSecond, readFraction, readZone, nothingLeft]
  rfl

/-- The numbers of a timestamp are read from its text. -/
theorem fields_text
    (timestamp : Timestamp) :
    fields timestamp.text.toList = .ok (fieldsOf timestamp) := by
  have month := timestamp.date.monthInRange
  have day := timestamp.date.dayInRange
  have dayBelow := day_lt timestamp.date
  have second := timestamp.secondInRange
  have leapSecond := leap_le_one timestamp
  have hyphen : Text.isWhiteSpace '-' = false := by decide
  have colon : Text.isWhiteSpace ':' = false := by decide
  rw [toList_text]
  exact fields_of_parts
    (year_yearText timestamp.date.yearInRange
      (Decimal.noDigitAhead_cons _ (by decide)))
    (separator_cons _ hyphen)
    (bounded_twoDigits _ (by omega) month)
    (separator_cons _ hyphen)
    (bounded_twoDigits _ (by omega) ⟨day.1, by omega⟩)
    rfl
    (bounded_twoDigits _ (by omega) (by omega))
    (separator_cons _ colon)
    (bounded_twoDigits _ (by omega) (by omega))
    (separator_cons _ colon)
    (bounded_twoDigits _ (by omega) (by omega))
    (fraction_fractionText (nanosecond_sub_lt timestamp)
      (Decimal.noDigitAhead_cons [] (by decide)) (by decide))
    rfl
    rfl

/-- The numbers of a day name that day. -/
theorem ofNumbers?_date
    (date : Date) :
    Date.ofNumbers? date.year date.month date.day = some date := by
  simp only [Date.ofNumbers?, date.yearInRange, date.monthInRange,
    date.dayInRange, and_self, ↓reduceDIte]

/-- Only a leap second is written as second 60. -/
theorem second_eq_sixty_iff
    (timestamp : Timestamp) :
    timestamp.second % 60 + leap timestamp = 60 ↔ leap timestamp = 1 := by
  have inRange := timestamp.nanosecondInRange
  have below : timestamp.second % 60 < 60 := Nat.mod_lt _ (by omega)
  unfold leap
  split <;> omega

/-- The parts of a timestamp are possible, so they are put together again. -/
theorem ofParts?_eq
    (timestamp : Timestamp) :
    Timestamp.ofParts? timestamp.date timestamp.second timestamp.nanosecond =
      some timestamp := by
  simp only [Timestamp.ofParts?, timestamp.secondInRange,
    timestamp.nanosecondInRange, ↓reduceDIte]

/--
The numbers of a day with a time in universal time denote an instant of that
day.
-/
theorem timestamp_of_numbers
    {numbers : Fields}
    {date : Date}
    {second leap : Nat}
    (onDate :
      Date.ofNumbers? numbers.year numbers.month numbers.day = some date)
    (universal : numbers.zone = 0)
    (inDay : second < 86400)
    (isLeap : (if numbers.second = 60 then 1 else 0) = leap)
    (sameSecond :
      numbers.hour * 3600 + numbers.minute * 60 +
        (numbers.second - leap) = second)
    {timestamp : Timestamp}
    (possible : Timestamp.ofParts? date second
        (numbers.nanosecond + leap * 1000000000) =
      some timestamp) :
    numbers.timestamp = .ok timestamp := by
  have whole : (numbers.hour : Int) * 3600 + numbers.minute * 60 +
      (numbers.second - leap : Nat) - 0 = second := by
    omega
  have remainder : ((second : Int) % 86400).toNat = second := by
    omega
  have notBefore : ¬ (second : Int) < 0 := by
    omega
  have notAfter : (second : Int) < 86400 := by
    omega
  unfold Fields.timestamp
  simp only [onDate, universal, isLeap, whole, remainder, notBefore, notAfter,
    ↓reduceIte, possible]
  rfl

/-- The numbers of a timestamp denote it. -/
theorem timestamp_fieldsOf
    (timestamp : Timestamp) :
    (fieldsOf timestamp).timestamp = .ok timestamp := by
  have sixty := second_eq_sixty_iff timestamp
  have leapSecond := leap_le_one timestamp
  have isLeap :
      (if (fieldsOf timestamp).second = 60 then 1 else 0) = leap timestamp := by
    change (if timestamp.second % 60 + leap timestamp = 60 then 1 else 0) =
      leap timestamp
    split <;> omega
  have sameSecond :
      timestamp.second / 3600 * 3600 + timestamp.second / 60 % 60 * 60 +
      (timestamp.second % 60 + leap timestamp - leap timestamp) =
        timestamp.second := by
    omega
  have sameNanosecond : timestamp.nanosecond - leap timestamp * 1000000000 +
      leap timestamp * 1000000000 = timestamp.nanosecond := by
    unfold leap
    split <;> omega
  refine timestamp_of_numbers (ofNumbers?_date timestamp.date) rfl
    timestamp.secondInRange isLeap sameSecond ?_
  change Timestamp.ofParts? timestamp.date timestamp.second
    (timestamp.nanosecond - leap timestamp * 1000000000 +
        leap timestamp * 1000000000) =
      some timestamp
  rw [sameNanosecond]
  exact ofParts?_eq timestamp

/-- A timestamp is read from its text. -/
theorem parse_text
    (timestamp : Timestamp) :
    parse timestamp.text = .ok timestamp := by
  unfold parse
  rw [fields_text]
  exact timestamp_fieldsOf timestamp

end Rfc3339

end WorkflowQueue
