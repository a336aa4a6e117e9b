namespace WorkflowQueue

/-!
# Page numbers

The listing of executions is served in pages that are counted from one. Page
numbers are 32-bit numbers, so the last page has no successor.
-/

/-- The number of a page. -/
structure PageNumber where
  number : Nat
  inRange : 1 ≤ number ∧ number < 4294967296
  deriving DecidableEq

namespace PageNumber

/-- The first page. -/
def first : PageNumber where
  number := 1
  inRange := by decide

/-- The page of a number, unless it is zero. -/
def ofWord?
    (word : UInt32) :
    Option PageNumber :=
  if positive : 1 ≤ word.toNat then
    some {
      number := word.toNat
      inRange := ⟨positive, word.toNat_lt⟩
    }
  else none

/-- The wording for the page that does not exist. -/
def zeroMessage : String :=
  "Validation failed: page numbers start at 1"

/-- The following page, unless this is the last one. -/
def next?
    (page : PageNumber) :
    Option PageNumber :=
  if below : page.number + 1 < 4294967296 then
    some {
      number := page.number + 1
      inRange := ⟨Nat.le_add_left 1 page.number, below⟩
    }
  else none

/-- The number in digits. -/
def text
    (page : PageNumber) :
    String :=
  toString page.number

end PageNumber

end WorkflowQueue
