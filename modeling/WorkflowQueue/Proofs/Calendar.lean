import WorkflowQueue.Proofs.Instants
import WorkflowQueue.Proofs.Records.Reading

namespace WorkflowQueue

/-!
# Instants of the calendar

The calendar days are numbered one after another, with the lengths of years and
months alone, so that an instant is a count of seconds and the numbers of a text
denote one without a calendar that steps from day to day. The timestamp that is
made of the numbers lies at that instant, and there is only one timestamp at an
instant.
-/

/-! ## Days -/

/-- The days from the beginning of year zero to the beginning of a year. -/
def daysBeforeYear
    (year : Int) :
    Int :=
  365 * year + (year + 3) / 4 - (year + 99) / 100 + (year + 399) / 400

/-- The days of the first months of a year. -/
def daysOfMonths
    (year : Int) :
    Nat →
    Nat
  | 0 => 0
  | count + 1 => daysOfMonths year count + daysInMonth year (count + 1)

/-- The number of a day, counted from the beginning of year zero. -/
def dayNumber
    (year : Int)
    (month day : Nat) :
    Int :=
  daysBeforeYear year + daysOfMonths year (month - 1) + day

theorem isLeapYear_iff
    {year : Int} :
    isLeapYear year = true ↔
      year % 4 = 0 ∧ (year % 100 ≠ 0 ∨ year % 400 = 0) := by
  simp [isLeapYear]

/-- The months of a year make up the year. -/
theorem daysBeforeYear_succ
    (year : Int) :
    daysBeforeYear (year + 1) = daysBeforeYear year + daysOfMonths year 12 := by
  unfold daysBeforeYear
  by_cases leap : isLeapYear year = true
  · have whole : daysOfMonths year 12 = 366 := by
      simp [daysOfMonths, daysInMonth, leap]
    rw [isLeapYear_iff] at leap
    omega
  · have whole : daysOfMonths year 12 = 365 := by
      simp [daysOfMonths, daysInMonth, leap]
    rw [isLeapYear_iff] at leap
    omega

theorem daysBeforeYear_mono
    {year other : Int}
    (before : year ≤ other) :
    daysBeforeYear year ≤ daysBeforeYear other := by
  unfold daysBeforeYear
  omega

/-- A month ends before the months after it. -/
theorem daysOfMonths_mono
    {year : Int}
    {count other : Nat}
    (before : count ≤ other) :
    daysOfMonths year count ≤ daysOfMonths year other := by
  induction before with
  | refl => exact Nat.le_refl _
  | step _ inductionHypothesis =>
      exact Nat.le_add_right_of_le inductionHypothesis

namespace Date

/-- The number of a day. -/
def number
    (date : Date) :
    Int :=
  dayNumber date.year date.month date.day

theorem ofNumbers?_eq_some
    {year : Int}
    {month day : Nat}
    {date : Date}
    (onDate : ofNumbers? year month day = some date) :
    date.year = year ∧ date.month = month ∧ date.day = day := by
  unfold ofNumbers? at onDate
  split_ifs at onDate
  cases onDate
  exact ⟨rfl, rfl, rfl⟩

/-- The days up to the end of a day's month. -/
theorem exists_month
    (date : Date) :
    ∃ month, date.month = month + 1 ∧ month < 12 ∧
      date.number = daysBeforeYear date.year + daysOfMonths date.year month +
        date.day := by
  have inRange := date.monthInRange
  refine ⟨date.month - 1, by omega, by omega, rfl⟩

/-- A day lies in its year. -/
theorem number_bounds
    (date : Date) :
    daysBeforeYear date.year < date.number ∧
      date.number ≤ daysBeforeYear (date.year + 1) := by
  obtain ⟨month, isMonth, inYear, isNumber⟩ := date.exists_month
  have inMonth := date.dayInRange
  have upToEnd :
      daysOfMonths date.year (month + 1) ≤ daysOfMonths date.year 12 :=
    daysOfMonths_mono inYear
  rw [daysOfMonths, ← isMonth] at upToEnd
  rw [daysBeforeYear_succ, isNumber]
  omega

theorem number_lt_of_year_lt
    {date other : Date}
    (before : date.year < other.year) :
    date.number < other.number :=
  Int.lt_of_le_of_lt
    (Int.le_trans date.number_bounds.2 (daysBeforeYear_mono before))
    other.number_bounds.1

theorem number_lt_of_month_lt
    {date other : Date}
    (sameYear : date.year = other.year)
    (before : date.month < other.month) :
    date.number < other.number := by
  obtain ⟨month, isMonth, -, isNumber⟩ := date.exists_month
  obtain ⟨otherMonth, isOtherMonth, -, isOtherNumber⟩ := other.exists_month
  have inMonth := date.dayInRange
  have inOtherMonth := other.dayInRange
  have upToEnd :
      daysOfMonths date.year (month + 1) ≤ daysOfMonths date.year otherMonth :=
    daysOfMonths_mono (by omega)
  rw [daysOfMonths, ← isMonth] at upToEnd
  rw [isNumber, isOtherNumber, ← sameYear]
  omega

/-- No two days have the same number. -/
theorem number_injective
    {date other : Date}
    (same : date.number = other.number) :
    date = other := by
  have sameYear : date.year = other.year := by
    rcases Int.lt_trichotomy date.year other.year with before | sameYear | after
    · exact absurd same (Int.ne_of_lt (number_lt_of_year_lt before))
    · exact sameYear
    · exact absurd same.symm (Int.ne_of_lt (number_lt_of_year_lt after))
  have sameMonth : date.month = other.month := by
    rcases Nat.lt_trichotomy date.month other.month with
      before | sameMonth | after
    · exact absurd same (Int.ne_of_lt (number_lt_of_month_lt sameYear before))
    · exact sameMonth
    · exact absurd same.symm
        (Int.ne_of_lt (number_lt_of_month_lt sameYear.symm after))
  have sameDay : date.day = other.day := by
    unfold number dayNumber at same
    rw [sameYear, sameMonth] at same
    omega
  rcases date with ⟨⟩
  rcases other with ⟨⟩
  simp_all

/-- The following day has the next number. -/
theorem number_of_next?
    {date next : Date}
    (isNext : date.next? = some next) :
    next.number = date.number + 1 := by
  obtain ⟨month, isMonth, inYear, isNumber⟩ := date.exists_month
  have inMonth := date.dayInRange
  rw [isNumber]
  unfold next? at isNext
  split_ifs at isNext with within notLast
  · obtain ⟨sameYear, sameMonth, isDay⟩ := ofNumbers?_eq_some isNext
    simp only [number, dayNumber, sameYear, sameMonth, isDay, isMonth,
      Nat.add_sub_cancel]
    omega
  · obtain ⟨sameYear, nextMonth, isDay⟩ := ofNumbers?_eq_some isNext
    simp only [number, dayNumber, sameYear, nextMonth, isDay, isMonth,
      Nat.add_sub_cancel, daysOfMonths]
    rw [isMonth] at inMonth within
    omega
  · obtain ⟨nextYear, isFirst, isDay⟩ := ofNumbers?_eq_some isNext
    obtain rfl : month = 11 := by omega
    simp only [number, dayNumber, nextYear, isFirst, isDay, Nat.sub_self,
      daysBeforeYear_succ]
    rw [isMonth] at inMonth within
    simp only [daysOfMonths] at *
    omega

/-- The day before has the number before. -/
theorem number_of_previous?
    {date before : Date}
    (isBefore : date.previous? = some before) :
    before.number = date.number - 1 := by
  obtain ⟨month, isMonth, inYear, isNumber⟩ := date.exists_month
  have inMonth := date.dayInRange
  rw [isNumber]
  unfold previous? at isBefore
  split_ifs at isBefore with within notFirst
  · obtain ⟨sameYear, sameMonth, isDay⟩ := ofNumbers?_eq_some isBefore
    simp only [number, dayNumber, sameYear, sameMonth, isDay, isMonth,
      Nat.add_sub_cancel]
    omega
  · obtain ⟨sameYear, isMonthBefore, isDay⟩ := ofNumbers?_eq_some isBefore
    obtain ⟨earlier, rfl⟩ : ∃ earlier, month = earlier + 1 :=
      Nat.exists_eq_add_of_le' (by omega)
    simp only [number, dayNumber, sameYear, isMonthBefore, isDay, isMonth,
      Nat.add_sub_cancel, daysOfMonths]
    omega
  · obtain ⟨yearBefore, isLast, isDay⟩ := ofNumbers?_eq_some isBefore
    obtain rfl : month = 0 := by omega
    have december : daysInMonth (date.year - 1) 12 = 31 := rfl
    have yearEnd := daysBeforeYear_succ (date.year - 1)
    rw [Int.sub_add_cancel, daysOfMonths, december] at yearEnd
    simp only [number, dayNumber, yearBefore, isLast, isDay,
      yearEnd, daysOfMonths]
    omega

end Date

/-! ## Instants -/

/--
An instant: the seconds from the beginning of year zero, and nanoseconds beyond
them. A leap second has the count of the second before it, and a thousand
million nanoseconds more.
-/
structure Instant where
  second : Int
  nanosecond : Nat
  deriving DecidableEq

/-- The instant of a timestamp. -/
def Timestamp.instant
    (timestamp : Timestamp) :
    Instant where
  second := timestamp.date.number * 86400 + timestamp.second
  nanosecond := timestamp.nanosecond

theorem Timestamp.ofParts?_eq_some
    {date : Date}
    {second nanosecond : Nat}
    {timestamp : Timestamp}
    (possible : ofParts? date second nanosecond = some timestamp) :
    timestamp.date = date ∧ timestamp.second = second ∧
      timestamp.nanosecond = nanosecond := by
  unfold ofParts? at possible
  split_ifs at possible
  cases possible
  exact ⟨rfl, rfl, rfl⟩

/-- There is one timestamp at an instant. -/
theorem Timestamp.instant_injective
    {timestamp other : Timestamp}
    (same : timestamp.instant = other.instant) :
    timestamp = other := by
  obtain ⟨sameSecond, sameNanosecond⟩ := Instant.mk.inj same
  have inDay := timestamp.secondInRange
  have otherInDay := other.secondInRange
  have sameDate : timestamp.date = other.date :=
    Date.number_injective (by omega)
  have sameOfDay : timestamp.second = other.second := by
    rw [sameDate] at sameSecond
    omega
  rcases timestamp with ⟨⟩
  rcases other with ⟨⟩
  simp_all

namespace Rfc3339

/--
The instant that numbers denote: the day and the time of day, less what the
clocks of the zone are ahead. Second sixty is a leap second.
-/
def Fields.instant
    (fields : Fields) :
    Instant :=
  let leap := if fields.second = 60 then 1 else 0
  {
    second :=
      dayNumber fields.year fields.month fields.day * 86400 +
          fields.hour * 3600 +
        fields.minute * 60 + (fields.second - leap : Nat) - fields.zone
    nanosecond := fields.nanosecond + leap * 1000000000
  }

/-- Numbers that a time of day can have. -/
structure Fields.IsTime
    (fields : Fields) : Prop where
  hour : fields.hour ≤ 23
  minute : fields.minute ≤ 59
  second : fields.second ≤ 60
  nanosecond : fields.nanosecond < 1000000000

/--
Seconds before, within or after a day fall on the day before, on it or on the
next one.
-/
theorem number_of_shifted
    {date day : Date}
    {second : Int}
    (inReach : -86400 ≤ second ∧ second < 172800)
    (shifted :
      (if second < 0 then date.previous?
        else if second < 86400 then some date
        else date.next?) = some day) :
    day.number * 86400 + second % 86400 = date.number * 86400 + second := by
  split_ifs at shifted with isBefore isWithin
  · have number := Date.number_of_previous? shifted
    omega
  · cases shifted
    omega
  · have number := Date.number_of_next? shifted
    omega

/--
The timestamp that is made of numbers lies at the instant that they denote.
-/
theorem Fields.instant_of_timestamp
    {fields : Fields}
    (isTime : fields.IsTime)
    {result : Timestamp}
    (denotes : fields.timestamp = .ok result) :
    result.instant = fields.instant := by
  obtain ⟨hour, minute, second, -⟩ := isTime
  unfold timestamp at denotes
  unfold instant
  generalize isLeap : (if fields.second = 60 then 1 else 0) = leap at denotes ⊢
  have secondBound : fields.second - leap ≤ 59 := by
    split at isLeap <;> omega
  split at denotes
  · cases denotes
  next date onDate =>
  obtain ⟨sameYear, sameMonth, sameDay⟩ := Date.ofNumbers?_eq_some onDate
  have isDate :
      date.number = dayNumber fields.year fields.month fields.day := by
    rw [Date.number, sameYear, sameMonth, sameDay]
  split at denotes
  · cases denotes
  next near =>
  simp only at denotes
  split at denotes
  · cases denotes
  next day shifted =>
  split at denotes
  · next made possible =>
      cases denotes
      obtain ⟨isDay, isSecond, isNanosecond⟩ :=
        Timestamp.ofParts?_eq_some possible
      have number := number_of_shifted (by omega) shifted
      simp only [Timestamp.instant, Instant.mk.injEq, isDay, isSecond,
        isNanosecond, and_true]
      omega
  · cases denotes

end Rfc3339

end WorkflowQueue
