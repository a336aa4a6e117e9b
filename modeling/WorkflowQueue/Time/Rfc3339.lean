import WorkflowQueue.Number.Decimal
import WorkflowQueue.Text.Blank
import WorkflowQueue.Time.Timestamp

namespace WorkflowQueue.Rfc3339

/-!
# Reading RFC 3339 timestamps

The accepted form is wider than the standard's: white space may stand before
every number and separator, the time may follow a blank, a signed year has any
number of digits, and the zone may be spelled out. Each number is checked
against its range as soon as it is read; the calendar is consulted only after
the whole text was read.
-/

/-- Why a text is no timestamp. -/
inductive Fault where
  | premature
  | invalid
  | outOfRange
  | impossible
  | trailing
  deriving DecidableEq

/-- The wording of a fault. -/
def Fault.message :
    Fault →
    String
  | .premature => "premature end of input"
  | .invalid => "input contains invalid characters"
  | .outOfRange => "input is out of range"
  | .impossible => "no possible date and time matching input"
  | .trailing => "trailing input"

/-- The digits at the front, at most `limit` of them, and the rest. -/
def takeDigits :
    Nat →
    List Char →
    List Char × List Char
  | 0, text => ([], text)
  | _ + 1, [] => ([], [])
  | limit + 1, c :: rest =>
      if Decimal.isDigit c then
        let (digits, after) := takeDigits limit rest
        (c :: digits, after)
      else ([], c :: rest)

/-- The value of digits that were taken from a text with a rest. -/
def numberOf
    (digits rest : List Char) :
    Except Fault (Nat × List Char) :=
  match Decimal.value? digits with
  | some value => .ok (value, rest)
  | none => if rest.isEmpty then .error .premature else .error .invalid

/-- A number of at most `limit` digits, after white space. -/
def number
    (limit : Nat)
    (text : List Char) :
    Except Fault (Nat × List Char) :=
  let (digits, rest) := takeDigits limit (Text.skipWhiteSpace text)
  numberOf digits rest

/-- A number of at most two digits within its range. -/
def bounded
    (low high : Nat)
    (text : List Char) :
    Except Fault (Nat × List Char) := do
  let (value, rest) ← number 2 text
  if low ≤ value ∧ value ≤ high then .ok (value, rest) else .error .outOfRange

/-- A year: four digits at most, or a sign and any number of digits. -/
def year
    (text : List Char) :
    Except Fault (Int × List Char) :=
  match Text.skipWhiteSpace text with
  | '-' :: rest => do
      let (value, after) ← numberOf (rest.takeWhile Decimal.isDigit)
        (rest.dropWhile Decimal.isDigit)
      if value ≤ 2147483648 then
        .ok (Int.negOfNat value, after) else .error .outOfRange
  | '+' :: rest => do
      let (value, after) ← numberOf (rest.takeWhile Decimal.isDigit)
        (rest.dropWhile Decimal.isDigit)
      if value < 2147483648 then
        .ok ((value : Int), after) else .error .outOfRange
  | digits => do
      let (value, after) ← number 4 digits
      .ok ((value : Int), after)

/-- A separator, after white space. -/
def separator
    (expected : Char)
    (text : List Char) :
    Except Fault (List Char) :=
  match Text.skipWhiteSpace text with
  | [] => .error .premature
  | c :: rest => if c = expected then .ok rest else .error .invalid

/-- The mark between day and time. -/
def timeMark :
    List Char →
    Except Fault (List Char)
  | [] => .error .premature
  | c :: rest =>
      if c = 'T' ∨ c = 't' ∨ c = ' ' then .ok rest else .error .invalid

/--
Nanoseconds directly after the second. Digits beyond the ninth are dropped.
-/
def fraction
    (text : List Char) :
    Except Fault (Nat × List Char) :=
  match text with
  | '.' :: rest => do
      let (digits, after) := takeDigits 9 rest
      let (value, after) ← numberOf digits after
      .ok (value * Nat.pow 10 (9 - digits.length),
        after.dropWhile Decimal.isDigit)
  | _ => .ok (0, text)

/--
Two digits of a zone. A lone ASCII character is too short, anything else is
wrong.
-/
def zoneDigits
    (text : List Char) :
    Except Fault (Nat × Nat × List Char) :=
  match text with
  | [] => .error .premature
  | [c] => if c.toNat < 128 then .error .premature else .error .invalid
  | first :: second :: rest =>
      match Decimal.digit? first, Decimal.digit? second with
      | some tens, some ones => .ok (tens, ones, rest)
      | _, _ => .error .invalid

/-- Hours and minutes of a zone in seconds, after its sign. -/
def zoneOffset
    (text : List Char) :
    Except Fault (Nat × List Char) := do
  let (tens, ones, rest) ← zoneDigits text
  let rest := rest.dropWhile fun c => c = ':' || Text.isWhiteSpace c
  let (minuteTens, minuteOnes, rest) ← zoneDigits rest
  if 5 < minuteTens then .error .outOfRange
  else
    .ok ((tens * 10 + ones) * 3600 + (minuteTens * 10 + minuteOnes) * 60, rest)

/-- A zone, as the seconds by which its clocks are ahead. -/
def zone
    (text : List Char) :
    Except Fault (Int × List Char) :=
  match Text.skipWhiteSpace text with
  | [] => .error .premature
  | c :: rest =>
      if c = 'Z' ∨ c = 'z' then .ok (0, rest)
      else if c = '+' then do
        let (seconds, after) ← zoneOffset rest
        .ok ((seconds : Int), after)
      else if c = '-' ∨ c = Char.ofNat 0x2212 then do
        let (seconds, after) ← zoneOffset rest
        .ok (Int.negOfNat seconds, after)
      else
        match c :: rest with
        | u :: t :: z :: after =>
            if u.toUpper = 'U' ∧ t.toUpper = 'T' ∧ z.toUpper = 'C' then
              .ok (0, after)
            else .error .invalid
        | _ => .error .invalid

/-- The numbers of a timestamp, as written. -/
structure Fields where
  year : Int
  month : Nat
  day : Nat
  hour : Nat
  minute : Nat
  second : Nat
  nanosecond : Nat
  zone : Int
  deriving DecidableEq

/-- The numbers written in a text. -/
def fields
    (text : List Char) :
    Except Fault Fields := do
  let (year, text) ← year text
  let text ← separator '-' text
  let (month, text) ← bounded 1 12 text
  let text ← separator '-' text
  let (day, text) ← bounded 1 31 text
  let text ← timeMark text
  let (hour, text) ← bounded 0 23 text
  let text ← separator ':' text
  let (minute, text) ← bounded 0 59 text
  let text ← separator ':' text
  let (second, text) ← bounded 0 60 text
  let (nanosecond, text) ← fraction text
  let (zone, text) ← zone text
  if (Text.skipWhiteSpace text).isEmpty then
    return {
      year := year
      month := month
      day := day
      hour := hour
      minute := minute
      second := second
      nanosecond := nanosecond
      zone := zone
    }
  else .error .trailing

/-- The instant that the numbers denote. -/
def Fields.timestamp
    (fields : Fields) :
    Except Fault Timestamp :=
  match Date.ofNumbers? fields.year fields.month fields.day with
  | none => .error .outOfRange
  | some date =>
      if 86400 ≤ fields.zone.natAbs then .error .outOfRange
      else
        let leap := if fields.second = 60 then 1 else 0
        let second : Int :=
          fields.hour * 3600 + fields.minute * 60 +
            (fields.second - leap : Nat) - fields.zone
        let day? :=
          if second < 0 then date.previous?
          else if second < 86400 then some date
          else date.next?
        match day? with
        | none => .error .impossible
        | some day =>
            match Timestamp.ofParts? day (second % 86400).toNat
                (fields.nanosecond + leap * 1000000000) with
            | some timestamp => .ok timestamp
            | none => .error .impossible

/-- Read a text as a timestamp. -/
def parse
    (text : String) :
    Except Fault Timestamp := do
  let fields ← fields text.toList
  fields.timestamp

end WorkflowQueue.Rfc3339
