import WorkflowQueue.Number.Binary64

namespace WorkflowQueue.Binary64

/-!
# The shortest decimal that reads back

A finite number stands for the interval of reals that round to it. Its text uses
the fewest decimal digits with a value in that interval; of two such values the
nearer one is taken, and the one with the even last digit where both are equally
near. All comparisons are between whole numbers.
-/

/-- Decimal digits and the power of ten of the first one. -/
structure DecimalForm where
  digits : List Char
  exponent : Int
  deriving DecidableEq

/--
The interval of reals that round to a positive number, as three numerators over
one denominator, and whether the ends belong to it. Below a power of two the
neighbour is only half as far away.
-/
structure RoundingInterval where
  low : Nat
  value : Nat
  high : Nat
  denominator : Nat
  closed : Bool

/-- The interval around `significand * 2 ^ exponent`. -/
def roundingInterval
    (significand : Nat)
    (exponent : Int) :
    RoundingInterval :=
  let below :=
    if significand = Nat.pow 2 52 ∧ leastExponent < exponent then 1 else 2
  let shift := exponent - 2
  let unit := if 0 ≤ shift then Nat.pow 2 shift.toNat else 1
  {
    low := (4 * significand - below) * unit
    value := 4 * significand * unit
    high := (4 * significand + 2) * unit
    denominator := if 0 ≤ shift then 1 else Nat.pow 2 (-shift).toNat
    closed := significand % 2 = 0
  }

/-- Whether `numerator / denominator` lies in the interval. -/
def RoundingInterval.contains
    (interval : RoundingInterval)
    (numerator denominator : Nat) :
    Bool :=
  let left := interval.low * denominator
  let middle := numerator * interval.denominator
  let right := interval.high * denominator
  if interval.closed then left ≤ middle && middle ≤ right
  else left < middle && middle < right

/--
The multiple of `10 ^ power` nearest to the value among those in the interval,
as a multiple of that power. Only the two neighbours of the value can be it.
-/
def RoundingInterval.onGrid?
    (interval : RoundingInterval)
    (power : Int) :
    Option Nat :=
  let up := if 0 ≤ power then Nat.pow 10 power.toNat else 1
  let down := if 0 ≤ power then 1 else Nat.pow 10 (-power).toNat
  let top := interval.value * down
  let bottom := interval.denominator * up
  let lower := top / bottom
  let twice := 2 * (top % bottom)
  let lowerFits := 0 < lower && interval.contains (lower * up) down
  let upperFits := interval.contains ((lower + 1) * up) down
  match lowerFits, upperFits with
  | true, true =>
      if twice < bottom then some lower
      else if bottom < twice then some (lower + 1)
      else some (lower + lower % 2)
  | true, false => some lower
  | false, true => some (lower + 1)
  | false, false => none

/-- The power of ten of the first digit of a positive ratio. -/
def leadingPower
    (numerator denominator : Nat) :
    Int :=
  if denominator ≤ numerator then
    ((Nat.toDigits 10 (numerator / denominator)).length : Int) - 1
  else
    -- The reciprocal, rounded up, has as many digits as there are places to go
    -- down.
    let upward := (denominator + numerator - 1) / numerator
    Int.negOfNat (Nat.toDigits 10 (upward - 1)).length

/-- Digits without trailing zeros; at least one digit is left. -/
def trimZeros
    (digits : List Char) :
    List Char :=
  match (digits.reverse.dropWhile (· == '0')).reverse with
  | [] => ['0']
  | trimmed => trimmed

/-- Search the grids of one digit, two digits and so on, up to `count` more. -/
def searchGrids
    (interval : RoundingInterval)
    (power : Int) :
    Nat →
    Nat × Int
  | 0 => (interval.value / interval.denominator, 0)
  | count + 1 =>
      match interval.onGrid? power with
      | some multiple => (multiple, power)
      | none => searchGrids interval (power - 1) count

/--
The shortest decimal form of a finite magnitude. Seventeen digits always
suffice.
-/
def shortest
    (significand : Nat)
    (exponent : Int) :
    DecimalForm :=
  if significand = 0 then { digits := ['0'], exponent := 0 }
  else
    let interval := roundingInterval significand exponent
    let leading := leadingPower interval.value interval.denominator
    let (multiple, power) := searchGrids interval leading 18
    let digits := Nat.toDigits 10 multiple
    {
      digits := trimZeros digits
      exponent := power + (digits.length - 1 : Nat)
    }

end WorkflowQueue.Binary64
