namespace WorkflowQueue.Decimal

/-!
# Decimal digits

Reading and writing whole numbers in base ten. A number is read digit by digit
from the left; the bounded readers used for settings, page numbers and ports
differ only in their limit and in whether a leading plus sign is allowed.
-/

/-- The value of an ASCII digit. -/
def digit?
    (c : Char) :
    Option Nat :=
  if '0' ≤ c ∧ c ≤ '9' then some (c.toNat - '0'.toNat) else none

/-- Whether a character is an ASCII digit. -/
def isDigit
    (c : Char) :
    Bool :=
  (digit? c).isSome

/-- The value of a run of digits that continues the number `value`. -/
def continue?
    (value : Nat) :
    List Char →
    Option Nat
  | [] => some value
  | c :: rest =>
      match digit? c with
      | some d => continue? (10 * value + d) rest
      | none => none

/-- The value of one or more digits. -/
def value? :
    List Char →
    Option Nat
  | [] => none
  | digits => continue? 0 digits

/-- The digits of a number, without leading zeros. -/
def text
    (value : Nat) :
    List Char :=
  Nat.toDigits 10 value

/--
A number below `limit`, written as one or more digits that may follow a plus
sign.
-/
def unsigned?
    (limit : Nat)
    (written : List Char) :
    Option Nat :=
  let digits :=
    match written with
    | '+' :: rest => rest
    | _ => written
  (value? digits).filter (· < limit)

/-- One past the largest 32-bit number. -/
def limit32 : Nat := 4294967296

/-- One past the largest 64-bit number. -/
def limit64 : Nat := 18446744073709551616

end WorkflowQueue.Decimal
