import WorkflowQueue.Number.Decimal
import WorkflowQueue.Text.Split

namespace WorkflowQueue.Url

/-!
# Network addresses in hosts

Addresses of four bytes may be written with fewer numbers, the last of which
then fills the remaining bytes, and each number may be decimal, octal or
hexadecimal. Addresses of eight groups may leave out one run of zero groups and
may end in an address of four bytes.
-/

/-- The value of a digit below a base of at most sixteen. -/
def digitBelow?
    (base : Nat)
    (c : Char) :
    Option Nat :=
  let value? :=
    if '0' ≤ c ∧ c ≤ '9' then some (c.toNat - '0'.toNat)
    else if 'a' ≤ c ∧ c ≤ 'f' then some (c.toNat - 'a'.toNat + 10)
    else if 'A' ≤ c ∧ c ≤ 'F' then some (c.toNat - 'A'.toNat + 10)
    else none
  value?.filter (· < base)

/-- The value of digits in a base. -/
def valueInBase?
    (base : Nat)
    (digits : List Char) :
    Option Nat :=
  digits.foldl
    (fun value? c => do
      let value ← value?
      let digit ← digitBelow? base c
      return value * base + digit)
    (some 0)

/-! ## Four bytes -/

/--
One number of an address: hexadecimal after `0x`, octal after `0`, otherwise
decimal.
-/
def addressNumber? :
    List Char →
    Option Nat
  | [] => none
  | '0' :: 'x' :: digits => valueInBase? 16 digits
  | '0' :: 'X' :: digits => valueInBase? 16 digits
  | '0' :: digit :: digits => valueInBase? 8 (digit :: digits)
  | digits => valueInBase? 10 digits

/-- Whether a host has to be an address because its last label is a number. -/
def endsInNumber
    (labels : List (List Char)) :
    Bool :=
  let last? :=
    match labels.reverse with
    | [] => none
    | [] :: [] => none
    | [] :: last :: _ => some last
    | last :: _ => some last
  match last? with
  | none => false
  | some last =>
      (!last.isEmpty && last.all Decimal.isDigit) ||
        (addressNumber? last).isSome

/-- The address that numbers stand for: all but the last are single bytes. -/
def addressOfNumbers?
    (numbers : List Nat) :
    Option Nat :=
  match numbers.reverse with
  | [] => none
  | last :: firstOnes =>
      let bytes := firstOnes.reverse
      if 3 < bytes.length ∨ bytes.any (255 < ·) ∨
        Nat.pow 256 (4 - bytes.length) ≤ last then none
      else
        some
          (bytes.zipIdx.foldl (fun total (byte, place) =>
            total + byte * Nat.pow 256 (3 - place)) last)

/--
The address that a host of these labels stands for. A last empty label is
dropped.
-/
def addressOfLabels?
    (labels : List (List Char)) :
    Option Nat :=
  let numbers :=
    match labels.reverse with
    | [] :: rest => rest.reverse
    | _ => labels
  if 4 < numbers.length then none
  else (numbers.mapM addressNumber?).bind addressOfNumbers?

/-- An address as four decimal numbers. -/
def addressText
    (address : Nat) :
    List Char :=
  let byte := fun place => Nat.toDigits 10 (address / Nat.pow 256 place % 256)
  byte 3 ++ '.' :: byte 2 ++ '.' :: byte 1 ++ '.' :: byte 0

/-! ## Eight groups -/

/--
The groups read so far, and how many stood before the run that was left out.
-/
structure GroupsRead where
  groups : List Nat
  gap : Option Nat

/--
The groups written by an address of four bytes at the end. Leading zeros are
refused.
-/
def trailingBytes?
    (text : List Char) :
    Option (List Nat) := do
  let numbers ← (Text.splitOn '.' text).mapM fun digits => do
    let value ← Decimal.value? digits
    if 255 < value ∨ (digits.head? = some '0' ∧ 1 < digits.length) then
      none else some value
  match numbers with
  | [a, b, c, d] => some [a * 256 + b, c * 256 + d]
  | _ => none

/-- The hexadecimal digits at the front, at most `limit`, and the rest. -/
def takeHex :
    Nat →
    List Char →
    List Char × List Char
  | 0, text => ([], text)
  | _ + 1, [] => ([], [])
  | limit + 1, c :: rest =>
      if (digitBelow? 16 c).isSome then
        let (digits, after) := takeHex limit rest
        (c :: digits, after)
      else ([], c :: rest)

/-- Read groups until the text ends; `room` groups may still follow. -/
def readGroups? :
    Nat →
    GroupsRead →
    List Char →
    Option GroupsRead
  | _, read, [] => some read
  | 0, _, _ :: _ => none
  | room + 1, read, ':' :: rest =>
      if read.gap.isSome then none
      else readGroups? room
        { groups := read.groups, gap := some read.groups.length } rest
  | room + 1, read, text =>
      let (digits, after) := takeHex 4 text
      match valueInBase? 16 digits, after with
      | some value, [] => some { read with groups := read.groups ++ [value] }
      | some value, ':' :: next =>
          if next.isEmpty then none
          else readGroups? room
            { read with groups := read.groups ++ [value] } next
      | _, '.' :: _ =>
          if digits.isEmpty ∨ room = 0 then none
          else do
            let bytes ← trailingBytes? text
            some { read with groups := read.groups ++ bytes }
      | _, _ => none

/-- Fill the run that was left out with zeros. -/
def GroupsRead.complete?
    (read : GroupsRead) :
    Option (List Nat) :=
  match read.gap with
  | some before =>
      some (read.groups.take before ++
        List.replicate (8 - read.groups.length) 0 ++ read.groups.drop before)
  | none => if read.groups.length = 8 then some read.groups else none

/-- The eight groups of a written address. -/
def groupsOfText?
    (text : List Char) :
    Option (List Nat) :=
  let read? :=
    match text with
    | ':' :: ':' :: rest => readGroups? 7 { groups := [], gap := some 0 } rest
    | [] => none
    | [_] => none
    | ':' :: _ => none
    | _ => readGroups? 8 { groups := [], gap := none } text
  read?.bind GroupsRead.complete?

/-- How many zero groups stand at the front. -/
def zeroRun
    (groups : List Nat) :
    Nat :=
  (groups.takeWhile (· = 0)).length

/-- The place and length of the first longest run of zero groups. -/
def longestZeroRun :
    Nat →
    List Nat →
    Nat × Nat
  | _, [] => (0, 0)
  | place, group :: rest =>
      let here := zeroRun (group :: rest)
      let (laterPlace, later) := longestZeroRun (place + 1) rest
      if later ≤ here then (place, here) else (laterPlace, later)

/-- Groups in hexadecimal, separated by colons. -/
def groupsJoined :
    List Nat →
    List Char
  | [] => []
  | [group] => Nat.toDigits 16 group
  | group :: rest => Nat.toDigits 16 group ++ ':' :: groupsJoined rest

/--
An address of eight groups; the first longest run of at least two zeros is left
out.
-/
def groupsText
    (groups : List Nat) :
    List Char :=
  let (place, length) := longestZeroRun 0 groups
  if length < 2 then groupsJoined groups
  else
    groupsJoined (groups.take place) ++ ':' :: ':' ::
      groupsJoined (groups.drop (place + length))

end WorkflowQueue.Url
