import WorkflowQueue.Number.Decimal

namespace WorkflowQueue

/-!
# Binary floating-point numbers of 64 bits

A finite number is a sign, a whole significand below `2 ^ 53` and a power of
two. Every operation computes the exact ratio of whole numbers first and rounds
it once, to the nearest representable number and to the even significand of two
that are equally near.
-/

/--
A binary64 number. Finite numbers are kept in canonical form: the significand is
at least `2 ^ 52` unless the exponent is the least one, `-1074`.
-/
inductive Binary64 where
  | nan
  | infinite (negative : Bool)
  | finite (negative : Bool) (significand : Nat) (exponent : Int)
  deriving DecidableEq, Inhabited

namespace Binary64

/-- The least exponent of a finite number. -/
def leastExponent : Int := -1074

/-- The greatest exponent of a finite number. -/
def greatestExponent : Int := 971

/-- Zero of the given sign. -/
def zero
    (negative : Bool) :
    Binary64 :=
  .finite negative 0 leastExponent

/-- `numerator / (denominator * 2 ^ exponent)` as a ratio of whole numbers. -/
def scaled
    (numerator denominator : Nat)
    (exponent : Int) :
    Nat × Nat :=
  if 0 ≤ exponent then
    (numerator, denominator * Nat.pow 2 exponent.toNat)
  else
    (numerator * Nat.pow 2 (-exponent).toNat, denominator)

/-- The whole number nearest to a ratio, the even one of two equally near. -/
def nearestEven
    (numerator denominator : Nat) :
    Nat :=
  let quotient := numerator / denominator
  let twice := 2 * (numerator % denominator)
  if twice < denominator then quotient
  else if denominator < twice then quotient + 1
  else quotient + quotient % 2

/--
The exponent at which a positive ratio has a significand of 53 bits, or the
least exponent where that is smaller. The quotient of the leading powers of two
is off by at most one, so one comparison settles it.
-/
def exponentOf
    (numerator denominator : Nat) :
    Int :=
  let guess : Int := (numerator.log2 : Int) - denominator.log2 - 52
  let (top, bottom) := scaled numerator denominator guess
  let exponent := if top < Nat.pow 2 52 * bottom then guess - 1 else guess
  max exponent leastExponent

/--
A significand that may have grown to `2 ^ 53`, brought back to canonical form.
-/
def pack
    (negative : Bool)
    (significand : Nat)
    (exponent : Int) :
    Binary64 :=
  let (significand, exponent) :=
    if significand < Nat.pow 2 53 then (significand, exponent)
    else (significand / 2, exponent + 1)
  if greatestExponent < exponent then .infinite negative
  else .finite negative significand exponent

/-- The number nearest to a ratio with a positive denominator. -/
def ofRatio
    (negative : Bool)
    (numerator denominator : Nat) :
    Binary64 :=
  if numerator = 0 then zero negative
  else
    let exponent := exponentOf numerator denominator
    let (top, bottom) := scaled numerator denominator exponent
    pack negative (nearestEven top bottom) exponent

/-- The number nearest to a whole number. -/
def ofNat
    (value : Nat) :
    Binary64 :=
  ofRatio false value 1

/-- A finite magnitude as a ratio of whole numbers. -/
def ratio
    (significand : Nat)
    (exponent : Int) :
    Nat × Nat :=
  if 0 ≤ exponent then (significand * Nat.pow 2 exponent.toNat, 1)
  else (significand, Nat.pow 2 (-exponent).toNat)

/-- The number with the opposite sign. -/
def negate :
    Binary64 →
    Binary64
  | .nan => .nan
  | .infinite negative => .infinite (!negative)
  | .finite negative significand exponent =>
      .finite (!negative) significand exponent

/-- The rounded product. -/
def mul :
    Binary64 →
    Binary64 →
    Binary64
  | .finite negative₁ significand₁ exponent₁,
      .finite negative₂ significand₂ exponent₂ =>
      let (top₁, bottom₁) := ratio significand₁ exponent₁
      let (top₂, bottom₂) := ratio significand₂ exponent₂
      ofRatio (negative₁ != negative₂) (top₁ * top₂) (bottom₁ * bottom₂)
  | .infinite negative₁, .infinite negative₂ =>
      .infinite (negative₁ != negative₂)
  | .infinite negative₁, .finite negative₂ significand₂ _ =>
      if significand₂ = 0 then .nan else .infinite (negative₁ != negative₂)
  | .finite negative₁ significand₁ _, .infinite negative₂ =>
      if significand₁ = 0 then .nan else .infinite (negative₁ != negative₂)
  | .nan, _ => .nan
  | _, .nan => .nan

/-- The rounded quotient of a finite number by a positive finite number. -/
def div :
    Binary64 →
    Binary64 →
    Binary64
  | .finite negative₁ significand₁ exponent₁,
      .finite negative₂ significand₂ exponent₂ =>
      if significand₂ = 0 then
        if significand₁ = 0 then .nan else .infinite (negative₁ != negative₂)
      else
        let (top₁, bottom₁) := ratio significand₁ exponent₁
        let (top₂, bottom₂) := ratio significand₂ exponent₂
        ofRatio (negative₁ != negative₂) (top₁ * bottom₂) (bottom₁ * top₂)
  | .finite negative₁ _ _, .infinite negative₂ => zero (negative₁ != negative₂)
  | .infinite negative₁, .finite negative₂ _ _ =>
      .infinite (negative₁ != negative₂)
  | _, _ => .nan

/-- The number nearest to a power of ten. -/
def powerOfTen
    (exponent : Nat) :
    Binary64 :=
  ofNat (Nat.pow 10 exponent)

/-- Whether a number is finite and zero. -/
def isZero :
    Binary64 →
    Bool
  | .finite _ significand _ => significand = 0
  | _ => false

/-- Whether a number is an infinity. -/
def isInfinite :
    Binary64 →
    Bool
  | .infinite _ => true
  | _ => false

/-- Equality of values: the two zeros are equal, and a NaN equals nothing. -/
def same
    (left right : Binary64) :
    Bool :=
  match left, right with
  | .nan, _ => false
  | _, .nan => false
  | _, _ => (left.isZero && right.isZero) || left = right

/--
The whole part as a 64-bit number. Negative numbers and NaN give zero, numbers
that are too large give the largest.
-/
def toWord
    (number : Binary64) :
    UInt64 :=
  match number with
  | .nan => 0
  | .infinite negative => if negative then 0 else 18446744073709551615
  | .finite negative significand exponent =>
      if negative then 0
      else
        let (top, bottom) := ratio significand exponent
        UInt64.ofNat (min (top / bottom) 18446744073709551615)

/--
The number nearest to `significand * 10 ^ exponent`. Exponents far outside the
range are settled without building the power.
-/
def ofDecimal
    (negative : Bool)
    (significand : Nat)
    (exponent : Int) :
    Binary64 :=
  let magnitude : Int := (Nat.toDigits 10 significand).length + exponent
  if significand = 0 ∨ magnitude < -400 then zero negative
  else if 400 < magnitude then .infinite negative
  else if 0 ≤ exponent then
    ofRatio negative (significand * Nat.pow 10 exponent.toNat) 1
  else ofRatio negative significand (Nat.pow 10 (-exponent).toNat)

/-- A sign in front of a text, and the text after it. -/
def signOf :
    List Char →
    Bool × List Char
  | '-' :: rest => (true, rest)
  | '+' :: rest => (false, rest)
  | text => (false, text)

/-- The exponent written after a decimal, if there is one. -/
def exponentOfText? :
    List Char →
    Option Int
  | [] => some 0
  | mark :: rest =>
      if mark = 'e' ∨ mark = 'E' then
        let (negative, digits) := signOf rest
        (Decimal.value? digits).map fun value =>
          if negative then Int.negOfNat value else value
      else none

/-- A decimal with an optional fraction and an optional exponent. -/
def decimalOfText?
    (negative : Bool)
    (text : List Char) :
    Option Binary64 := do
  let whole := text.takeWhile Decimal.isDigit
  let afterWhole := text.dropWhile Decimal.isDigit
  let (fraction, tail) :=
    match afterWhole with
    | '.' :: rest =>
        (rest.takeWhile Decimal.isDigit, rest.dropWhile Decimal.isDigit)
    | _ => ([], afterWhole)
  let significand ← Decimal.value? (whole ++ fraction)
  let exponent ← exponentOfText? tail
  return ofDecimal negative significand (exponent - fraction.length)

/--
The number nearest to a written decimal; `NaN` and `inf` stand for themselves.
-/
def ofText?
    (text : String) :
    Option Binary64 :=
  let (negative, magnitude) := signOf text.toList
  if magnitude = ['N', 'a', 'N'] then some .nan
  else if magnitude = ['i', 'n', 'f'] then some (.infinite negative)
  else decimalOfText? negative magnitude

end Binary64

end WorkflowQueue
