import WorkflowQueue.Proofs.Calendar
import WorkflowQueue.Proofs.Text.Blanks

namespace WorkflowQueue.Rfc3339

/-!
# The notation of instants

How a text may write an instant, part by part and without a reader. A `Spelling`
is what the writer of a timestamp chooses: the zone, the digits of the fraction,
the mark between day and time, leading zeros, and white space. A text holds
numbers exactly when it is the text of a spelling of them.
-/

/-! ## Parts -/

/-- White space between the parts of a text. -/
structure Gap where
  text : List Char
  blank : Text.Blank text

/-- One or more digits. -/
structure Digits where
  text : List Char
  allDigits : Decimal.AllDigits text
  notEmpty : text ≠ []

/-- The number that digits write. -/
def Digits.value
    (digits : Digits) :
    Nat :=
  Nat.ofDigitChars 10 digits.text 0

/-- A year: up to four digits, or a sign before any number of digits. -/
inductive Year where
  | plain (gap : Gap) (digits : Digits) (short : digits.text.length ≤ 4)
  | positive (gap : Gap) (digits : Digits) (inRange : digits.value < 2147483648)
  | negative (gap : Gap) (digits : Digits) (inRange : digits.value ≤ 2147483648)

namespace Year

/-- The text of a year, with its sign. -/
def text :
    Year →
    List Char
  | .plain gap digits _ => gap.text ++ digits.text
  | .positive gap digits _ => gap.text ++ '+' :: digits.text
  | .negative gap digits _ => gap.text ++ '-' :: digits.text

/-- The number of a year. -/
def value :
    Year →
    Int
  | .plain _ digits _ => digits.value
  | .positive _ digits _ => digits.value
  | .negative _ digits _ => -digits.value

end Year

/-- A number of one or two digits within bounds. -/
structure Bounded (low high : Nat) where
  gap : Gap
  digits : Digits
  short : digits.text.length ≤ 2
  inRange : low ≤ digits.value ∧ digits.value ≤ high

namespace Bounded

variable
  {low high : Nat}

/-- The text of a number within bounds, with the white space before it. -/
def text
    (part : Bounded low high) :
    List Char :=
  part.gap.text ++ part.digits.text

/-- The number that is within the bounds. -/
def value
    (part : Bounded low high) :
    Nat :=
  part.digits.value

end Bounded

/-- The fraction of a second, with any number of digits. -/
inductive Fraction where
  | none
  | some (digits : Digits)

namespace Fraction

/-- The text of a fraction, with its dot. -/
def text :
    Fraction →
    List Char
  | .none => []
  | .some digits => '.' :: digits.text

/-- The whole nanoseconds of a fraction. -/
def nanosecond :
    Fraction →
    Nat
  | .none => 0
  | .some digits => digits.value * 1000000000 / Nat.pow 10 digits.text.length

end Fraction

/-- A number written with two digits. -/
structure TwoDigits where
  tens : Nat
  ones : Nat
  tensInRange : tens < 10
  onesInRange : ones < 10

namespace TwoDigits

/-- The two digits. -/
def text
    (number : TwoDigits) :
    List Char :=
  [Nat.digitChar number.tens, Nat.digitChar number.ones]

/-- The number that two digits write. -/
def value
    (number : TwoDigits) :
    Nat :=
  number.tens * 10 + number.ones

end TwoDigits

/--
A zone: universal time by a letter or by name, or hours and minutes before or
after it.
-/
inductive Zone where
  | letter
      (mark : Char)
      (isMark : mark = 'Z' ∨ mark = 'z')
  | name
      (u t c : Char)
      (isName : (u = 'U' ∨ u = 'u') ∧ (t = 'T' ∨ t = 't') ∧ (c = 'C' ∨ c = 'c'))
  | offset
      (sign : Char)
      (isSign : sign = '+' ∨ sign = '-' ∨ sign = Char.ofNat 0x2212)
      (hours : TwoDigits)
      (between : List Char)
      (isBetween : ∀ c ∈ between, c = ':' ∨ Text.isWhiteSpace c = true)
      (minutes : TwoDigits)
      (inRange : minutes.value < 60)

namespace Zone

/-- The text of a zone. -/
def text :
    Zone →
    List Char
  | .letter mark _ => [mark]
  | .name u t c _ => [u, t, c]
  | .offset sign _ hours between _ minutes _ =>
      sign :: (hours.text ++ (between ++ minutes.text))

/-- The seconds by which the clocks of a zone are ahead. -/
def ahead :
    Zone →
    Int
  | .letter _ _ => 0
  | .name _ _ _ _ => 0
  | .offset sign _ hours _ _ minutes _ =>
      let seconds : Int := hours.value * 3600 + minutes.value * 60
      if sign = '+' then seconds else -seconds

end Zone

/-- The parts of a text that writes an instant. -/
structure Spelling where
  year : Year
  beforeMonth : Gap
  month : Bounded 1 12
  beforeDay : Gap
  day : Bounded 1 31
  mark : Char
  isMark : mark = 'T' ∨ mark = 't' ∨ mark = ' '
  hour : Bounded 0 23
  beforeMinute : Gap
  minute : Bounded 0 59
  beforeSecond : Gap
  second : Bounded 0 60
  fraction : Fraction
  beforeZone : Gap
  zone : Zone
  after : Gap

namespace Spelling

/-- The text of a spelling. -/
def text
    (spelling : Spelling) :
    List Char :=
  spelling.year.text ++ (spelling.beforeMonth.text ++ '-' ::
    (spelling.month.text ++ (spelling.beforeDay.text ++ '-' ::
    (spelling.day.text ++ spelling.mark ::
    (spelling.hour.text ++ (spelling.beforeMinute.text ++ ':' ::
    (spelling.minute.text ++ (spelling.beforeSecond.text ++ ':' ::
    (spelling.second.text ++ (spelling.fraction.text ++
    (spelling.beforeZone.text ++
      (spelling.zone.text ++ spelling.after.text))))))))))))

/-- The numbers that a spelling writes. -/
def numbers
    (spelling : Spelling) :
    Fields where
  year := spelling.year.value
  month := spelling.month.value
  day := spelling.day.value
  hour := spelling.hour.value
  minute := spelling.minute.value
  second := spelling.second.value
  nanosecond := spelling.fraction.nanosecond
  zone := spelling.zone.ahead

end Spelling

/-! ## Reading -/

/-- What begins with white space or with a character begins as either does. -/
theorem forall_head_gap
    {Good : Char → Prop}
    (blankGood : ∀ c, Text.isWhiteSpace c = true → Good c)
    (gap : Gap)
    {c : Char}
    (good : Good c)
    (rest : List Char) :
    ∀ first ∈ (gap.text ++ c :: rest).head?, Good first := by
  rcases gap with ⟨_ | ⟨blank, _⟩, allBlank⟩
  · rintro _ ⟨⟩
    exact good
  · rintro _ ⟨⟩
    exact blankGood blank (allBlank blank List.mem_cons_self)

/-- Nothing that is white space is a digit. -/
theorem noDigitAhead_gap
    (gap : Gap)
    {c : Char}
    (rest : List Char)
    (noDigit : Decimal.isDigit c = false) :
    Decimal.NoDigitAhead (gap.text ++ c :: rest) := by
  refine forall_head_gap
    (fun blank isBlank => Bool.eq_false_iff.mpr fun isDigit => ?_) gap
    noDigit rest
  rw [isWhiteSpace_of_isDigit isDigit] at isBlank
  cases isBlank

theorem numberOf_eq_ok_iff
    {digits rest after : List Char}
    {value : Nat} :
    numberOf digits rest = .ok (value, after) ↔
      (∃ written : Digits, written.text = digits ∧ written.value = value) ∧
        after = rest := by
  unfold numberOf
  constructor
  · intro isNumber
    split at isNumber
    · next isValue =>
        cases isNumber
        obtain ⟨notEmpty, allDigits, isValue⟩ :=
          Decimal.value?_eq_some_iff.mp isValue
        exact ⟨⟨⟨digits, allDigits, notEmpty⟩, rfl, isValue⟩, rfl⟩
    · split at isNumber <;> cases isNumber
  · rintro ⟨⟨written, rfl, rfl⟩, rfl⟩
    rw [Decimal.value?_eq written.allDigits written.notEmpty]
    rfl

/-- Digits are taken from the front of a text. -/
theorem takeDigits_spec
    (limit : Nat)
    (text : List Char) :
    (takeDigits limit text).1 ++ (takeDigits limit text).2 = text ∧
      (takeDigits limit text).1.length ≤ limit := by
  induction limit generalizing text with
  | zero => exact ⟨rfl, Nat.le_refl _⟩
  | succ limit inductionHypothesis =>
      rcases text with _ | ⟨c, rest⟩
      · exact ⟨rfl, Nat.zero_le _⟩
      obtain ⟨whole, short⟩ := inductionHypothesis rest
      rw [takeDigits]
      split
      · exact ⟨congrArg (c :: ·) whole, Nat.succ_le_succ short⟩
      · exact ⟨rfl, Nat.zero_le _⟩

/-- The gap in front of a text. -/
def gapBefore
    (text : List Char) :
    Gap where
  text := text.takeWhile Text.isWhiteSpace
  blank _ isTaken := List.mem_takeWhile_imp isTaken

theorem gapBefore_append
    (text : List Char) :
    (gapBefore text).text ++ Text.skipWhiteSpace text = text :=
  List.takeWhile_append_dropWhile

/-- A number is read from what writes it. -/
theorem exists_of_number
    {limit value : Nat}
    {text rest : List Char}
    (isRead : number limit text = .ok (value, rest)) :
    ∃ (gap : Gap) (digits : Digits), text = gap.text ++ (digits.text ++ rest) ∧
      digits.text.length ≤ limit ∧ digits.value = value := by
  unfold number at isRead
  obtain ⟨⟨digits, isTaken, isValue⟩, rfl⟩ := numberOf_eq_ok_iff.mp isRead
  obtain ⟨whole, short⟩ := takeDigits_spec limit (Text.skipWhiteSpace text)
  refine ⟨gapBefore text, digits, ?_, isTaken ▸ short, isValue⟩
  rw [isTaken, whole, gapBefore_append]

theorem number_gap
    {limit : Nat}
    (gap : Gap)
    (digits : Digits)
    {rest : List Char}
    (short : digits.text.length ≤ limit)
    (noDigitAhead : Decimal.NoDigitAhead rest) :
    number limit (gap.text ++ (digits.text ++ rest)) =
      .ok (digits.value, rest) := by
  have skipped : number limit (gap.text ++ (digits.text ++ rest)) =
      number limit (digits.text ++ rest) := by
    rw [number, number, Text.skipWhiteSpace_append gap.blank]
  rw [skipped,
    number_append digits.allDigits digits.notEmpty short (Or.inr noDigitAhead)]
  rfl

theorem exists_of_bounded
    {low high value : Nat}
    {text rest : List Char}
    (isRead : bounded low high text = .ok (value, rest)) :
    ∃ part : Bounded low high, text = part.text ++ rest ∧
      part.value = value := by
  rw [bounded, Except.bind_eq_ok_iff] at isRead
  obtain ⟨⟨number, after⟩, isNumber, checked⟩ := isRead
  obtain ⟨gap, digits, rfl, short, rfl⟩ := exists_of_number isNumber
  simp only at checked
  split at checked
  · next inRange =>
      cases checked
      exact ⟨⟨gap, digits, short, inRange⟩, (List.append_assoc ..).symm, rfl⟩
  · cases checked

theorem bounded_text
    {low high : Nat}
    (part : Bounded low high)
    {rest : List Char}
    (noDigitAhead : Decimal.NoDigitAhead rest) :
    bounded low high (part.text ++ rest) = .ok (part.value, rest) := by
  rw [bounded, Bounded.text, List.append_assoc,
    number_gap part.gap part.digits part.short noDigitAhead]
  exact if_pos part.inRange

theorem exists_of_separator
    {mark : Char}
    {text rest : List Char}
    (isRead : separator mark text = .ok rest) :
    ∃ gap : Gap, text = gap.text ++ mark :: rest := by
  refine ⟨gapBefore text, ?_⟩
  have whole := gapBefore_append text
  unfold separator at isRead
  split at isRead
  · cases isRead
  · next c after shape =>
      split at isRead
      · next isMark =>
          cases isRead
          rw [← isMark, ← shape, whole]
      · cases isRead

theorem separator_gap
    {mark : Char}
    (gap : Gap)
    (rest : List Char)
    (visible : Text.isWhiteSpace mark = false) :
    separator mark (gap.text ++ mark :: rest) = .ok rest := by
  rw [← separator_cons rest visible, separator, separator,
    Text.skipWhiteSpace_append gap.blank]

theorem timeMark_eq_ok_iff
    {text rest : List Char} :
    timeMark text = .ok rest ↔
      ∃ mark, (mark = 'T' ∨ mark = 't' ∨ mark = ' ') ∧ text = mark :: rest := by
  cases text with
  | nil => simp [timeMark]
  | cons c after =>
      by_cases isMark : c = 'T' ∨ c = 't' ∨ c = ' '
      · simp only [timeMark, isMark, if_true, Except.ok.injEq]
        constructor
        · rintro rfl
          exact ⟨c, isMark, rfl⟩
        · rintro ⟨mark, -, shape⟩
          cases shape
          rfl
      · simp only [timeMark, isMark, if_false, reduceCtorEq, false_iff]
        rintro ⟨mark, isOther, shape⟩
        cases shape
        exact isMark isOther

/-! ### Years -/

/-- All digits after a sign belong to the year. -/
theorem exists_of_sign
    {sign : Char}
    {magnitude : Nat}
    {text after rest : List Char}
    (shape : Text.skipWhiteSpace text = sign :: after)
    (isNumber :
      numberOf (after.takeWhile Decimal.isDigit)
          (after.dropWhile Decimal.isDigit) =
        .ok (magnitude, rest)) :
    ∃ digits : Digits, text =
        (gapBefore text).text ++ sign :: (digits.text ++ rest) ∧
      digits.value = magnitude := by
  obtain ⟨⟨digits, isTaken, isValue⟩, rfl⟩ := numberOf_eq_ok_iff.mp isNumber
  refine ⟨digits, ?_, isValue⟩
  rw [isTaken, List.takeWhile_append_dropWhile, ← shape, gapBefore_append]

theorem exists_of_year
    {text rest : List Char}
    {value : Int}
    (isRead : year text = .ok (value, rest)) :
    ∃ written : Year, text = written.text ++ rest ∧ written.value = value := by
  unfold year at isRead
  split at isRead
  · next after shape =>
      rw [Except.bind_eq_ok_iff] at isRead
      obtain ⟨⟨magnitude, left⟩, isNumber, checked⟩ := isRead
      obtain ⟨digits, isText, rfl⟩ := exists_of_sign shape isNumber
      simp only at checked
      split at checked
      · next inRange =>
          cases checked
          refine ⟨.negative (gapBefore text) digits inRange, ?_,
            Int.negOfNat_eq.symm⟩
          rw [Year.text, List.append_assoc, List.cons_append, ← isText]
      · cases checked
  · next after shape =>
      rw [Except.bind_eq_ok_iff] at isRead
      obtain ⟨⟨magnitude, left⟩, isNumber, checked⟩ := isRead
      obtain ⟨digits, isText, rfl⟩ := exists_of_sign shape isNumber
      simp only at checked
      split at checked
      · next inRange =>
          cases checked
          refine ⟨.positive (gapBefore text) digits inRange, ?_, rfl⟩
          rw [Year.text, List.append_assoc, List.cons_append, ← isText]
      · cases checked
  · rw [Except.bind_eq_ok_iff] at isRead
    obtain ⟨⟨magnitude, left⟩, isNumber, checked⟩ := isRead
    cases checked
    have same : number 4 (Text.skipWhiteSpace text) = number 4 text := by
      conv_rhs => rw [← gapBefore_append text]
      rw [number, number, Text.skipWhiteSpace_append (gapBefore text).blank]
    obtain ⟨gap, digits, shape, short, rfl⟩ :=
      exists_of_number (same ▸ isNumber)
    exact ⟨.plain gap digits short,
      by rw [Year.text, List.append_assoc, shape], rfl⟩

theorem year_text
    (written : Year)
    {rest : List Char}
    (noDigitAhead : Decimal.NoDigitAhead rest) :
    year (written.text ++ rest) = .ok (written.value, rest) := by
  have skipped (gap : Gap) (text : List Char) :
      year (gap.text ++ text) = year text := by
    rw [year, year, Text.skipWhiteSpace_append gap.blank]
  cases written with
  | plain gap digits short =>
      rw [Year.text, List.append_assoc, skipped]
      refine year_of_digits digits.allDigits digits.notEmpty ?_
      exact number_append digits.allDigits digits.notEmpty short
        (Or.inr noDigitAhead)
  | positive gap digits inRange =>
      rw [Year.text, List.append_assoc, List.cons_append, skipped]
      exact year_plus inRange
        (numberOf_digits digits.allDigits digits.notEmpty noDigitAhead)
  | negative gap digits inRange =>
      rw [Year.text, List.append_assoc, List.cons_append, skipped,
        year_minus inRange
          (numberOf_digits digits.allDigits digits.notEmpty noDigitAhead)]
      rw [Year.value, Int.negOfNat_eq]
      rfl

/-! ### Fractions -/

theorem allTaken
    (digits : Digits) :
    Decimal.AllDigits (digits.text.take 9) :=
  fun c isTaken => digits.allDigits c (List.mem_of_mem_take isTaken)

theorem allDropped
    (digits : Digits) :
    Decimal.AllDigits (digits.text.drop 9) :=
  fun c isDropped => digits.allDigits c (List.mem_of_mem_drop isDropped)

/-- Nine digits are taken at most, and the others left. -/
theorem takeDigits_nine
    (digits : Digits)
    {rest : List Char}
    (noDigitAhead : Decimal.NoDigitAhead rest) :
    takeDigits 9 (digits.text ++ rest) =
      (digits.text.take 9, digits.text.drop 9 ++ rest) := by
  have ends : (digits.text.take 9).length = 9 ∨
      Decimal.NoDigitAhead (digits.text.drop 9 ++ rest) := by
    rw [List.length_take]
    rcases Nat.le_total 9 digits.text.length with long | short
    · exact .inl (Nat.min_eq_left long)
    · rw [List.drop_eq_nil_of_le short]
      exact .inr noDigitAhead
  conv_lhs => rw [← List.take_append_drop 9 digits.text, List.append_assoc]
  exact takeDigits_append (allTaken digits)
    (List.length_take_le 9 digits.text) ends

/-- The first nine digits of a fraction tell the whole nanoseconds. -/
theorem nanosecond_eq
    (digits : Digits) :
    Nat.ofDigitChars 10 (digits.text.take 9) 0 *
        Nat.pow 10 (9 - (digits.text.take 9).length) =
      (Fraction.some digits).nanosecond := by
  have positive (count : Nat) : 0 < Nat.pow 10 count := Nat.pow_pos (by decide)
  rw [Fraction.nanosecond, Digits.value]
  rcases Nat.le_total digits.text.length 9 with short | long
  · have whole :
        Nat.pow 10 (9 - digits.text.length) * Nat.pow 10 digits.text.length =
        1000000000 := by
      refine (Nat.pow_add 10 (9 - digits.text.length)
        digits.text.length).symm.trans ?_
      rw [Nat.sub_add_cancel short]
    rw [List.take_of_length_le short, ← whole, ← Nat.mul_assoc,
      Nat.mul_div_cancel _ (positive _)]
  · obtain ⟨count, more⟩ := Nat.exists_eq_add_of_le long
    have length : (digits.text.drop 9).length = count := by
      rw [List.length_drop, more, Nat.add_sub_cancel_left]
    have below := Decimal.ofDigitChars_lt (allDropped digits) 0
    have value : Nat.ofDigitChars 10 digits.text 0 =
        Nat.pow 10 count * Nat.ofDigitChars 10 (digits.text.take 9) 0 +
          Nat.ofDigitChars 10 (digits.text.drop 9) 0 := by
      conv_lhs => rw [← List.take_append_drop 9 digits.text,
        Nat.ofDigitChars_append]
      rw [Nat.ofDigitChars_eq_ofDigitChars_zero, length]
      rfl
    rw [length, Nat.zero_add, Nat.one_mul] at below
    have power : Nat.pow 10 (9 + count) = Nat.pow 10 count * 1000000000 :=
      (Nat.pow_add 10 9 count).trans (Nat.mul_comm _ _)
    rw [List.length_take, Nat.min_eq_left long, more, value, power,
      Nat.mul_div_mul_right _ _ (by decide), Nat.mul_add_div (positive count),
      Nat.div_eq_of_lt below]
    exact Nat.mul_one _

/-- A fraction is read with all its digits. -/
theorem fraction_point
    (digits : Digits)
    {rest : List Char}
    (noDigitAhead : Decimal.NoDigitAhead rest) :
    fraction ('.' :: (digits.text ++ rest)) =
      .ok ((Fraction.some digits).nanosecond, rest) := by
  have notEmpty : digits.text.take 9 ≠ [] := fun none =>
    digits.notEmpty ((List.take_eq_nil_iff.mp none).resolve_left (by decide))
  have isNumber : numberOf (digits.text.take 9) (digits.text.drop 9 ++ rest) =
      .ok (Nat.ofDigitChars 10 (digits.text.take 9) 0,
        digits.text.drop 9 ++ rest) :=
    numberOf_eq_ok_iff.mpr ⟨⟨⟨_, allTaken digits, notEmpty⟩, rfl, rfl⟩, rfl⟩
  have left :
      (digits.text.drop 9 ++ rest).dropWhile Decimal.isDigit = rest := by
    rw [List.dropWhile_append_of_pos (allDropped digits),
      noDigitAhead.dropWhile_eq]
  rw [fraction, takeDigits_nine digits noDigitAhead]
  simp only [isNumber, bind, Except.bind, left, nanosecond_eq]

theorem fraction_text
    (written : Fraction)
    {rest : List Char}
    (noDigitAhead : Decimal.NoDigitAhead rest)
    (noPoint : ∀ c ∈ rest.head?, c ≠ '.') :
    fraction (written.text ++ rest) = .ok (written.nanosecond, rest) := by
  cases written with
  | none =>
      cases rest with
      | nil => rfl
      | cons c after =>
          simp [Fraction.text, Fraction.nanosecond, fraction, noPoint c rfl]
  | some digits => exact fraction_point digits noDigitAhead

theorem exists_of_fraction
    {text rest : List Char}
    {value : Nat}
    (isRead : fraction text = .ok (value, rest)) :
    ∃ written : Fraction, text = written.text ++ rest ∧
      written.nanosecond = value := by
  rcases text with _ | ⟨c, after⟩
  · cases isRead
    exact ⟨.none, rfl, rfl⟩
  by_cases isPoint : c = '.'
  · subst isPoint
    have noDigitAhead := Decimal.noDigitAhead_dropWhile after
    have whole :=
      List.takeWhile_append_dropWhile (p := Decimal.isDigit) (l := after)
    by_cases none : after.takeWhile Decimal.isDigit = []
    · rw [none, List.nil_append] at whole
      rw [whole] at noDigitAhead
      have nothing : takeDigits 9 after = ([], after) :=
        @takeDigits_append 9 [] after (List.forall_mem_nil _) (Nat.zero_le 9)
          (.inr noDigitAhead)
      rw [fraction, nothing, Except.bind_eq_ok_iff] at isRead
      obtain ⟨_, isNumber, -⟩ := isRead
      obtain ⟨⟨digits, isEmpty, -⟩, -⟩ := numberOf_eq_ok_iff.mp isNumber
      exact (digits.notEmpty isEmpty).elim
    · let digits : Digits := {
        text := after.takeWhile Decimal.isDigit
        allDigits := fun _ isTaken => List.mem_takeWhile_imp isTaken
        notEmpty := none
      }
      have read := fraction_point digits noDigitAhead
      rw [whole, isRead] at read
      cases read
      exact ⟨.some digits, congrArg ('.' :: ·) whole.symm, rfl⟩
  · have nothing : fraction (c :: after) = .ok (0, c :: after) := by
      simp [fraction, isPoint]
    rw [nothing] at isRead
    cases isRead
    exact ⟨.none, rfl, rfl⟩

/-! ### Zones -/

theorem zoneDigits_eq_ok_iff
    {text rest : List Char}
    {tens ones : Nat} :
    zoneDigits text = .ok (tens, ones, rest) ↔
      ∃ number : TwoDigits, text = number.text ++ rest ∧ number.tens = tens ∧
        number.ones = ones := by
  constructor
  · intro isRead
    unfold zoneDigits at isRead
    split at isRead
    · cases isRead
    · split at isRead <;> cases isRead
    · next first second after =>
      split at isRead
      · next isTens isOnes =>
          cases isRead
          obtain ⟨tensInRange, isFirst⟩ := Decimal.eq_digitChar_of_digit? isTens
          obtain ⟨onesInRange, isSecond⟩ :=
            Decimal.eq_digitChar_of_digit? isOnes
          exact ⟨⟨tens, ones, tensInRange, onesInRange⟩,
            by rw [isFirst, isSecond]; rfl, rfl, rfl⟩
      · cases isRead
  · rintro ⟨number, rfl, rfl, rfl⟩
    simp [TwoDigits.text, zoneDigits,
      Decimal.digit?_digitChar number.tensInRange,
      Decimal.digit?_digitChar number.onesInRange]

theorem zoneOffset_text
    (hours minutes : TwoDigits)
    {between : List Char}
    (isBetween : ∀ c ∈ between, c = ':' ∨ Text.isWhiteSpace c = true)
    (inRange : minutes.value < 60)
    (rest : List Char) :
    zoneOffset (hours.text ++ (between ++ (minutes.text ++ rest))) =
      .ok (hours.value * 3600 + minutes.value * 60, rest) := by
  have isHours :
      zoneDigits (hours.text ++ (between ++ (minutes.text ++ rest))) =
      .ok (hours.tens, hours.ones, between ++ (minutes.text ++ rest)) :=
    zoneDigits_eq_ok_iff.mpr ⟨hours, rfl, rfl, rfl⟩
  have isMinutes : zoneDigits (minutes.text ++ rest) =
      .ok (minutes.tens, minutes.ones, rest) :=
    zoneDigits_eq_ok_iff.mpr ⟨minutes, rfl, rfl, rfl⟩
  have skipped : (between ++ (minutes.text ++ rest)).dropWhile
      (fun c => c = ':' || Text.isWhiteSpace c) = minutes.text ++ rest := by
    rw [List.dropWhile_append_of_pos (by simpa using isBetween)]
    have isDigit := Decimal.isDigit_digitChar minutes.tensInRange
    have notColon : Nat.digitChar minutes.tens ≠ ':' := by
      intro isColon
      rw [isColon] at isDigit
      exact absurd isDigit (by decide)
    simp [TwoDigits.text, notColon, isWhiteSpace_of_isDigit isDigit]
  have small : ¬ 5 < minutes.tens := by
    have value := inRange
    rw [TwoDigits.value] at value
    omega
  rw [zoneOffset]
  simp only [isHours, bind, Except.bind, skipped, isMinutes, small, if_false]
  rfl

theorem exists_of_zoneOffset
    {text rest : List Char}
    {seconds : Nat}
    (isRead : zoneOffset text = .ok (seconds, rest)) :
    ∃ (hours minutes : TwoDigits) (between : List Char),
      (∀ c ∈ between, c = ':' ∨ Text.isWhiteSpace c = true) ∧
          minutes.value < 60 ∧
        text = hours.text ++ (between ++ (minutes.text ++ rest)) ∧
          seconds = hours.value * 3600 + minutes.value * 60 := by
  simp only [zoneOffset, Except.bind_eq_ok_iff] at isRead
  obtain ⟨⟨_, _, afterHours⟩, isHours, ⟨_, _, afterMinutes⟩, isMinutes,
    checked⟩ := isRead
  obtain ⟨hours, rfl, rfl, rfl⟩ := zoneDigits_eq_ok_iff.mp isHours
  obtain ⟨minutes, shape, rfl, rfl⟩ := zoneDigits_eq_ok_iff.mp isMinutes
  simp only at checked
  split at checked
  · cases checked
  · next small =>
    cases checked
    have onesInRange := minutes.onesInRange
    refine ⟨hours, minutes, afterHours.takeWhile fun c => c = ':' ||
      Text.isWhiteSpace c, ?_, ?_, ?_, rfl⟩
    · intro c isTaken
      simpa using List.mem_takeWhile_imp isTaken
    · rw [TwoDigits.value]
      omega
    · rw [← shape, List.takeWhile_append_dropWhile]

/-- A letter is the capital letter that it becomes, or the small one. -/
theorem eq_of_toUpper
    {c upper lower : Char}
    (isUpper : c.toUpper = upper)
    (isLower : lower.val = upper.val - ('A'.val - 'a'.val)) :
    c = upper ∨ c = lower := by
  unfold Char.toUpper at isUpper
  split at isUpper
  · refine .inr (Char.ext ?_)
    rw [isLower, ← isUpper]
    exact (UInt32.add_sub_cancel c.val _).symm
  · exact .inl isUpper

theorem zone_text
    (gap : Gap)
    (written : Zone)
    (rest : List Char) :
    zone (gap.text ++ (written.text ++ rest)) = .ok (written.ahead, rest) := by
  have skipped (text : List Char) : zone (gap.text ++ text) = zone text := by
    rw [zone, zone, Text.skipWhiteSpace_append gap.blank]
  rw [skipped]
  cases written with
  | letter mark isMark => rcases isMark with rfl | rfl <;> rfl
  | name u t c isName =>
      rcases isName with ⟨rfl | rfl, rfl | rfl, rfl | rfl⟩ <;> rfl
  | offset sign isSign hours between isBetween minutes inRange =>
      have isOffset := zoneOffset_text hours minutes isBetween inRange rest
      rw [Zone.text, List.cons_append, List.append_assoc, List.append_assoc]
      rcases isSign with rfl | isMinus
      · have forward (text : List Char) : zone ('+' :: text) =
            (zoneOffset text).bind fun read =>
              .ok ((read.1 : Int), read.2) := rfl
        rw [forward, isOffset]
        rfl
      · have backward (text : List Char) : zone (sign :: text) =
            (zoneOffset text).bind fun read =>
              .ok (Int.negOfNat read.1, read.2) := by
          rcases isMinus with rfl | rfl <;> rfl
        have notPlus : sign ≠ '+' := by
          rcases isMinus with rfl | rfl <;> decide
        rw [backward, isOffset]
        simp [Except.bind, Zone.ahead, notPlus, Int.negOfNat_eq]

/-- A sign is followed by hours and minutes. -/
theorem exists_of_offset
    {sign : Char}
    (isSign : sign = '+' ∨ sign = '-' ∨ sign = Char.ofNat 0x2212)
    {after rest : List Char}
    {seconds : Nat}
    (isOffset : zoneOffset after = .ok (seconds, rest)) :
    ∃ written : Zone, sign :: after = written.text ++ rest ∧
      written.ahead = if sign = '+' then (seconds : Int) else -seconds := by
  obtain ⟨hours, minutes, between, isBetween, inRange, rfl, rfl⟩ :=
    exists_of_zoneOffset isOffset
  exact ⟨.offset sign isSign hours between isBetween minutes inRange,
    by simp [Zone.text], by simp [Zone.ahead]⟩

theorem exists_of_zone
    {text rest : List Char}
    {ahead : Int}
    (isRead : zone text = .ok (ahead, rest)) :
    ∃ (gap : Gap) (written : Zone), text = gap.text ++ (written.text ++ rest) ∧
      written.ahead = ahead := by
  suffices ∃ written : Zone, Text.skipWhiteSpace text = written.text ++ rest ∧
      written.ahead = ahead by
    obtain ⟨written, shape, isAhead⟩ := this
    exact ⟨gapBefore text, written, by rw [← shape, gapBefore_append], isAhead⟩
  unfold zone at isRead
  split at isRead
  · cases isRead
  next c after shape =>
  rw [shape]
  split at isRead
  · next isMark =>
    cases isRead
    exact ⟨.letter c isMark, rfl, rfl⟩
  split at isRead
  · next isPlus =>
    rw [Except.bind_eq_ok_iff] at isRead
    obtain ⟨⟨seconds, left⟩, isOffset, checked⟩ := isRead
    cases checked
    obtain ⟨written, isText, isAhead⟩ := exists_of_offset (.inl isPlus) isOffset
    exact ⟨written, isText, by rw [isAhead, if_pos isPlus]⟩
  split at isRead
  · next notPlus isMinus =>
    rw [Except.bind_eq_ok_iff] at isRead
    obtain ⟨⟨seconds, left⟩, isOffset, checked⟩ := isRead
    cases checked
    obtain ⟨written, isText, isAhead⟩ :=
      exists_of_offset (.inr isMinus) isOffset
    exact ⟨written, isText,
      by rw [isAhead, if_neg notPlus, Int.negOfNat_eq]; rfl⟩
  split at isRead
  · next u t z afterName same =>
    split at isRead
    · next isName =>
      cases isRead
      obtain ⟨isU, isT, isC⟩ := isName
      exact ⟨.name u t z ⟨eq_of_toUpper isU (by decide), eq_of_toUpper isT
        (by decide), eq_of_toUpper isC (by decide)⟩, same, rfl⟩
    · cases isRead
  · cases isRead

/--
A zone begins with a character that neither continues a number nor begins a
fraction.
-/
theorem Zone.exists_head
    (written : Zone) :
    ∃ first rest, written.text = first :: rest ∧ Decimal.isDigit first = false ∧
      first ≠ '.' := by
  cases written with
  | letter mark isMark =>
      refine ⟨mark, [], rfl, ?_⟩
      rcases isMark with rfl | rfl <;> decide
  | name u t c isName =>
      refine ⟨u, [t, c], rfl, ?_⟩
      rcases isName.1 with rfl | rfl <;> decide
  | offset sign isSign =>
      refine ⟨sign, _, rfl, ?_⟩
      rcases isSign with rfl | rfl | rfl <;> decide

/-! ### Texts -/

/-- The numbers of a spelling are read from its text. -/
theorem Spelling.fields_text
    (spelling : Spelling) :
    fields spelling.text = .ok spelling.numbers := by
  obtain ⟨first, zoneRest, isZone, noDigit, notPoint⟩ :=
    spelling.zone.exists_head
  have markIsNoDigit : Decimal.isDigit spelling.mark = false := by
    rcases spelling.isMark with isMark | isMark | isMark <;>
      rw [isMark] <;> decide
  have zoneText (after : List Char) :
      spelling.beforeZone.text ++ (spelling.zone.text ++ after) =
      spelling.beforeZone.text ++ first :: (zoneRest ++ after) := by
    rw [isZone, List.cons_append]
  have noDigitAtZone (after : List Char) :
      Decimal.NoDigitAhead
        (spelling.beforeZone.text ++ (spelling.zone.text ++ after)) :=
    zoneText after ▸ noDigitAhead_gap spelling.beforeZone _ noDigit
  have blankNoPoint : ∀ c, Text.isWhiteSpace c = true → c ≠ '.' := by
    rintro _ isBlank rfl
    exact absurd isBlank (by decide)
  have noPointAtZone (after : List Char) :
      ∀ c ∈ (spelling.beforeZone.text ++ (spelling.zone.text ++ after)).head?,
        c ≠ '.' :=
    zoneText after ▸ forall_head_gap blankNoPoint _ notPoint _
  refine fields_of_parts
    (year_text spelling.year (noDigitAhead_gap _ _ (by decide)))
    (separator_gap spelling.beforeMonth _ (by decide))
    (bounded_text spelling.month (noDigitAhead_gap _ _ (by decide)))
    (separator_gap spelling.beforeDay _ (by decide))
    (bounded_text spelling.day (Decimal.noDigitAhead_cons _ markIsNoDigit))
    (timeMark_eq_ok_iff.mpr ⟨_, spelling.isMark, rfl⟩)
    (bounded_text spelling.hour (noDigitAhead_gap _ _ (by decide)))
    (separator_gap spelling.beforeMinute _ (by decide))
    (bounded_text spelling.minute (noDigitAhead_gap _ _ (by decide)))
    (separator_gap spelling.beforeSecond _ (by decide))
    (bounded_text spelling.second ?_)
    (fraction_text spelling.fraction (noDigitAtZone _) (noPointAtZone _))
    (zone_text spelling.beforeZone spelling.zone _)
    (List.dropWhile_eq_nil_iff.mpr spelling.after.blank)
  cases isFraction : spelling.fraction with
  | none => exact noDigitAtZone _
  | some digits => exact Decimal.noDigitAhead_cons _ (by decide)

/-- Whatever numbers are read from, it is the text of a spelling of them. -/
theorem exists_spelling
    {text : List Char}
    {numbers : Fields}
    (areRead : fields text = .ok numbers) :
    ∃ spelling : Spelling, spelling.text = text ∧
      spelling.numbers = numbers := by
  simp only [fields, Except.bind_eq_ok_iff] at areRead
  obtain ⟨⟨year, afterYear⟩, isYear, _, isFirstHyphen, ⟨month, _⟩, isMonth, _,
    isSecondHyphen, ⟨day, _⟩, isDay, _, isMark, ⟨hour, _⟩, isHour, _,
    isFirstColon, ⟨minute, _⟩, isMinute, _, isSecondColon, ⟨second, _⟩,
    isSecond, ⟨nanosecond, _⟩, isFraction, ⟨ahead, left⟩, isZone, isBuilt⟩ :=
      areRead
  obtain ⟨year, rfl, rfl⟩ := exists_of_year isYear
  obtain ⟨beforeMonth, rfl⟩ := exists_of_separator isFirstHyphen
  obtain ⟨month, rfl, rfl⟩ := exists_of_bounded isMonth
  obtain ⟨beforeDay, rfl⟩ := exists_of_separator isSecondHyphen
  obtain ⟨day, rfl, rfl⟩ := exists_of_bounded isDay
  obtain ⟨mark, isTimeMark, rfl⟩ := timeMark_eq_ok_iff.mp isMark
  obtain ⟨hour, rfl, rfl⟩ := exists_of_bounded isHour
  obtain ⟨beforeMinute, rfl⟩ := exists_of_separator isFirstColon
  obtain ⟨minute, rfl, rfl⟩ := exists_of_bounded isMinute
  obtain ⟨beforeSecond, rfl⟩ := exists_of_separator isSecondColon
  obtain ⟨second, rfl, rfl⟩ := exists_of_bounded isSecond
  obtain ⟨fraction, rfl, rfl⟩ := exists_of_fraction isFraction
  obtain ⟨beforeZone, zone, rfl, rfl⟩ := exists_of_zone isZone
  simp only at isBuilt
  split at isBuilt
  · next isOver =>
    cases isBuilt
    have blank : Text.Blank left :=
      List.dropWhile_eq_nil_iff.mp (List.isEmpty_iff.mp isOver)
    exact ⟨{
      year := year
      beforeMonth := beforeMonth
      month := month
      beforeDay := beforeDay
      day := day
      mark := mark
      isMark := isTimeMark
      hour := hour
      beforeMinute := beforeMinute
      minute := minute
      beforeSecond := beforeSecond
      second := second
      fraction := fraction
      beforeZone := beforeZone
      zone := zone
      after := ⟨left, blank⟩
    }, rfl, rfl⟩
  · cases isBuilt

/-- A text holds numbers exactly when it is the text of a spelling of them. -/
theorem fields_eq_ok_iff
    {text : List Char}
    {numbers : Fields} :
    fields text = .ok numbers ↔
      ∃ spelling : Spelling, spelling.text = text ∧
        spelling.numbers = numbers := by
  constructor
  · exact exists_spelling
  · rintro ⟨spelling, rfl, rfl⟩
    exact spelling.fields_text

theorem exists_spelling_of_fields
    {text : String}
    {numbers : Fields}
    (areRead : fields text.toList = .ok numbers) :
    ∃ spelling : Spelling, text = String.ofList spelling.text ∧
      spelling.numbers = numbers := by
  obtain ⟨spelling, isText, areNumbers⟩ := fields_eq_ok_iff.mp areRead
  exact ⟨spelling, by rw [isText, String.ofList_toList], areNumbers⟩

/-- Every timestamp that is read is spelled in some way. -/
theorem exists_spelling_of_parse
    {text : String}
    {timestamp : Timestamp}
    (isParsed : parse text = .ok timestamp) :
    ∃ spelling : Spelling, text = String.ofList spelling.text := by
  rw [parse, Except.bind_eq_ok_iff] at isParsed
  obtain ⟨numbers, areRead, -⟩ := isParsed
  obtain ⟨spelling, isText, -⟩ := exists_spelling_of_fields areRead
  exact ⟨spelling, isText⟩

/-! ## Instants -/

/-- A fraction is less than a second. -/
theorem Fraction.nanosecond_lt
    (fraction : Fraction) :
    fraction.nanosecond < 1000000000 := by
  cases fraction with
  | none => exact Nat.zero_lt_succ _
  | some digits =>
      have below := Decimal.ofDigitChars_lt digits.allDigits 0
      rw [Nat.zero_add, Nat.one_mul] at below
      exact Nat.div_lt_of_lt_mul (Nat.mul_lt_mul_of_pos_right below (by decide))

namespace Spelling

theorem isTime
    (spelling : Spelling) :
    spelling.numbers.IsTime where
  hour := spelling.hour.inRange.2
  minute := spelling.minute.inRange.2
  second := spelling.second.inRange.2
  nanosecond := spelling.fraction.nanosecond_lt

/-- The instant that a spelling denotes, to the nanosecond. -/
def instant
    (spelling : Spelling) :
    Instant :=
  spelling.numbers.instant

/--
What is read from a spelling lies at the instant that the spelling denotes.
-/
theorem instant_of_parse
    {spelling : Spelling}
    {timestamp : Timestamp}
    (isParsed : parse (String.ofList spelling.text) = .ok timestamp) :
    timestamp.instant = spelling.instant := by
  rw [parse, String.toList_ofList, spelling.fields_text] at isParsed
  exact Fields.instant_of_timestamp spelling.isTime isParsed

/-- A leap second has the nanoseconds of no other second. -/
theorem instant_ne_of_leap
    {spelling other : Spelling}
    (isLeap : spelling.second.value = 60)
    (notLeap : other.second.value ≠ 60) :
    spelling.instant ≠ other.instant := by
  intro same
  have sameNanosecond := (Instant.mk.inj same).2
  have bound := other.isTime.nanosecond
  have leap : spelling.numbers.second = 60 := isLeap
  have plain : other.numbers.second ≠ 60 := notLeap
  rw [if_pos leap, if_neg plain] at sameNanosecond
  omega

end Spelling

/-- Timestamps are written alike only if they are the same. -/
theorem text_injective
    {timestamp other : Timestamp}
    (same : timestamp.text = other.text) :
    timestamp = other := by
  have isRead := parse_text timestamp
  rw [same, parse_text] at isRead
  exact (Except.ok.inj isRead).symm

/--
However they were spelled, timestamps are the same exactly when they lie at one
instant.
-/
theorem parse_eq_iff
    {spelling twin : Spelling}
    {timestamp other : Timestamp}
    (isParsed : parse (String.ofList spelling.text) = .ok timestamp)
    (otherParsed : parse (String.ofList twin.text) = .ok other) :
    timestamp = other ↔ spelling.instant = twin.instant := by
  rw [← Spelling.instant_of_parse isParsed,
    ← Spelling.instant_of_parse otherParsed]
  exact ⟨congrArg Timestamp.instant, Timestamp.instant_injective⟩

end WorkflowQueue.Rfc3339
