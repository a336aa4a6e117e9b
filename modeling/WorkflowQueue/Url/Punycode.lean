import WorkflowQueue.Number.Decimal

namespace WorkflowQueue.Url.Punycode

/-!
# Labels beyond ASCII in ASCII

A label is written as its ASCII characters, a hyphen, and digits in base 36 that
say where the other characters go. The digits of each number have varying
weights, which adapt to the numbers before.
-/

/-- The base of the digits. -/
def base : Nat := 36

/-- The adaptation before the first number. -/
def initialBias : Nat := 72

/-- The least code point that is not ASCII. -/
def firstPoint : Nat := 128

/--
Scale a difference down until it is small; returns it with the digits dropped.
-/
def scaleDown
    (difference : Nat)
    (dropped : Nat) :
    Nat × Nat :=
  if 455 < difference then scaleDown (difference / 35) (dropped + base)
  else (difference, dropped)
termination_by difference
decreasing_by omega

/-- The adaptation after a number, given how many characters are placed. -/
def adapt
    (difference placed : Nat)
    (isFirst : Bool) :
    Nat :=
  let damped := if isFirst then difference / 700 else difference / 2
  let (left, dropped) := scaleDown (damped + damped / placed) 0
  dropped + 36 * left / (left + 38)

/--
The weight limit of the digit at a position, which counts up from the base.
-/
def threshold
    (position bias : Nat) :
    Nat :=
  if position ≤ bias + 1 then 1
  else if bias + 26 ≤ position then 26
  else position - bias

/-- Every weight limit lies between one and twenty-six. -/
theorem threshold_bounds
    (position bias : Nat) :
    1 ≤ threshold position bias ∧ threshold position bias ≤ 26 := by
  unfold threshold
  split
  · omega
  · split <;> omega

/-- A digit as a letter or a decimal digit. -/
def digitChar
    (digit : Nat) :
    Char :=
  if digit < 26 then Char.ofNat ('a'.toNat + digit)
  else Char.ofNat ('0'.toNat + digit - 26)

/-- The value of a digit. -/
def digitValue?
    (c : Char) :
    Option Nat :=
  if 'a' ≤ c ∧ c ≤ 'z' then some (c.toNat - 'a'.toNat)
  else if 'A' ≤ c ∧ c ≤ 'Z' then some (c.toNat - 'A'.toNat)
  else if '0' ≤ c ∧ c ≤ '9' then some (c.toNat - '0'.toNat + 26)
  else none

/-- A number in digits of varying weight. -/
def numberText
    (number bias position : Nat) :
    List Char :=
  let limit := threshold position bias
  if number < limit then [digitChar number]
  else
    digitChar (limit + (number - limit) % (base - limit)) ::
      numberText ((number - limit) / (base - limit)) bias (position + base)
termination_by number
decreasing_by
  have bounds := threshold_bounds position bias
  exact Nat.lt_of_le_of_lt (Nat.div_le_self _ _) (by omega)

/--
What the encoder carries along: the current difference, the adaptation, and
characters placed.
-/
structure Progress where
  difference : Nat
  bias : Nat
  placed : Nat
  written : List Char

/-- Pass over one character of the label while `point` is being placed. -/
def passChar
    (basic point : Nat)
    (progress : Progress)
    (c : Char) :
    Progress :=
  if c.toNat < point then
    { progress with difference := progress.difference + 1 }
  else if c.toNat = point then {
    difference := 0
    bias :=
      adapt progress.difference (progress.placed + 1) (progress.placed = basic)
    placed := progress.placed + 1
    written :=
      progress.written ++ numberText progress.difference progress.bias base
  }
  else progress

/--
Place all occurrences of one code point after those below `next` were placed.
-/
def placePoint
    (label : List Char)
    (basic : Nat)
    (state : Nat × Progress)
    (point : Nat) :
    Nat × Progress :=
  let (next, progress) := state
  let moved :=
    { progress with
      difference :=
        progress.difference + (point - next) * (progress.placed + 1) }
  let passed := label.foldl (passChar basic point) moved
  (point + 1, { passed with difference := passed.difference + 1 })

/-- The code points beyond ASCII in increasing order, each once. -/
def extendedPoints
    (label : List Char) :
    List Nat :=
  let points := (label.map Char.toNat).filter (firstPoint ≤ ·)
  (points.mergeSort (· ≤ ·)).eraseDups

/-- A label in ASCII, without the mark in front. -/
def encode
    (label : List Char) :
    List Char :=
  let basic := label.filter fun c => c.toNat < firstPoint
  let start : Progress := {
    difference := 0
    bias := initialBias
    placed := basic.length
    written := if basic.isEmpty then [] else basic ++ ['-']
  }
  ((extendedPoints label).foldl (placePoint label basic.length) (firstPoint,
    start)).2.written

/-- Read one number: its value and the rest, unless the digits end early. -/
def readNumber?
    (bias : Nat)
    (value weight position : Nat) :
    List Char →
    Option (Nat × List Char)
  | [] => none
  | c :: rest =>
      match digitValue? c with
      | none => none
      | some digit =>
          let value := value + digit * weight
          let limit := threshold position bias
          if digit < limit then some (value, rest)
          else readNumber? bias value (weight * (base - limit))
            (position + base) rest

/-- The largest number that a decoder handles. -/
def numberLimit : Nat := 4294967296

/--
Place the characters that the digits describe; `rounds` numbers may still
follow.
-/
def placeAll? :
    Nat →
    (point place bias : Nat) →
    List Char →
    List Char →
    Option (List Char)
  | _, _, _, _, label, [] => some label
  | 0, _, _, _, _, _ :: _ => none
  | rounds + 1, point, place, bias, label, c :: rest =>
      match readNumber? bias 0 1 base (c :: rest) with
      | none => none
      | some (number, after) =>
          let size := label.length + 1
          let point := point + (place + number) / size
          let index := (place + number) % size
          if numberLimit ≤ number ∨ 0x110000 ≤ point ∨
            (0xD800 ≤ point ∧ point < 0xE000) then
            none
          else
            placeAll? rounds point (index + 1) (adapt number size (place = 0))
              (label.take index ++ Char.ofNat point :: label.drop index) after

/-- The ASCII characters before the last hyphen, and the digits after it. -/
def splitLastHyphen
    (text : List Char) :
    List Char × List Char :=
  let backwards := text.reverse
  let digits := (backwards.takeWhile (· ≠ '-')).reverse
  match backwards.dropWhile (· ≠ '-') with
  | [] => ([], digits)
  | _ :: basic => (basic.reverse, digits)

/-- The label that ASCII text without the mark in front stands for. -/
def decode?
    (text : List Char) :
    Option (List Char) :=
  let (basic, digits) := splitLastHyphen text
  if basic.all fun c => c.toNat < firstPoint then
    placeAll? text.length firstPoint 0 initialBias basic digits
  else none

end WorkflowQueue.Url.Punycode
