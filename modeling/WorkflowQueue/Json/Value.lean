import WorkflowQueue.Number.Binary64

namespace WorkflowQueue

/-!
# JSON values

The value type shared by response bodies, request bodies and the free parts of
records. Numbers are either whole numbers of at most 64 bits or binary64
numbers, and the two kinds are never equal. Members of an object are a list of
pairs; `Json.Members.insert` keeps such a list in strictly increasing key order,
the order in which every object that was read is stored and printed.
-/

/-- A whole number that fits 64 bits, with or without a sign. -/
structure WideInteger where
  value : Int
  inRange : -9223372036854775808 ≤ value ∧ value < 18446744073709551616
  deriving DecidableEq

namespace WideInteger

/-- A number as a wide integer, where it fits. -/
def ofInt?
    (value : Int) :
    Option WideInteger :=
  if inRange : -9223372036854775808 ≤ value ∧ value < 18446744073709551616 then
    some { value := value, inRange := inRange }
  else none

/-- An unsigned 64-bit word as a wide integer. -/
def ofWord
    (word : UInt64) :
    WideInteger where
  value := (word.toNat : Int)
  inRange := by
    have bound := word.toNat_lt
    omega

end WideInteger

/-- A JSON value. -/
inductive Json where
  | null
  | bool (value : Bool)
  | integer (value : WideInteger)
  | float (value : Binary64)
  | string (value : String)
  | array (elements : List Json)
  | object (members : List (String × Json))
  deriving Inhabited

namespace Json

/-- The members of an object. -/
abbrev Members := List (String × Json)

/--
Store a member at its place in key order. A member of the same name is replaced,
so the last of several occurrences wins.
-/
def Members.insert
    (name : String)
    (value : Json) :
    Members →
    Members
  | [] => [(name, value)]
  | (other, kept) :: rest =>
      if name < other then (name, value) :: (other, kept) :: rest
      else if name = other then (name, value) :: rest
      else (other, kept) :: Members.insert name value rest

mutual

/--
Equality of values: whole numbers as numbers, floating-point numbers by value.
-/
def same :
    Json →
    Json →
    Bool
  | .null, .null => true
  | .bool left, .bool right => left == right
  | .integer left, .integer right => left.value == right.value
  | .float left, .float right => left.same right
  | .string left, .string right => left == right
  | .array left, .array right => sameElements left right
  | .object left, .object right => sameMembers left right
  | _, _ => false

/-- Equality of element lists, place by place. -/
def sameElements :
    List Json →
    List Json →
    Bool
  | [], [] => true
  | left :: lefts, right :: rights =>
      same left right && sameElements lefts rights
  | _, _ => false

/-- Equality of member lists, place by place. -/
def sameMembers :
    List (String × Json) →
    List (String × Json) →
    Bool
  | [], [] => true
  | (leftName, left) :: lefts, (rightName, right) :: rights =>
      leftName == rightName && same left right && sameMembers lefts rights
  | _, _ => false

end

instance : BEq Json where
  beq := same

/-- A word as a JSON number. -/
def ofWord
    (word : UInt64) :
    Json :=
  .integer (WideInteger.ofWord word)

end Json

end WorkflowQueue
