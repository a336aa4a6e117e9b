import WorkflowQueue.Json.Reader
import WorkflowQueue.Proofs.Json.Shape

namespace WorkflowQueue.Json

/-!
# What can be read

A reader keeps every member at its place and never opens more containers than it
may. So whatever is read from a text has its members in order and is nested at
most as deep as the limit. `Gives` says what holds of everything that a reader
can return; there is one statement for each reader, in the order in which they
call one another.
-/

/-- A property of whatever a reader returns, if it returns. -/
def Gives
    (property : α → Prop) :
    Read α →
    Prop
  | .ok (result, _) => property result
  | .error _ => True

theorem Gives.of_ok
    {property : α → Prop}
    {read : Read α}
    {result : α}
    {rest : List Char}
    (gives : Gives property read)
    (isOk : read = .ok (result, rest)) :
    property result := by
  subst isOk
  exact gives

/-- Nothing is known of what a reader returns. -/
theorem Gives.any
    (read : Read α) :
    Gives (fun _ => True) read := by
  cases read <;> trivial

/-- What is made of a returned value has the property that is wanted. -/
theorem Gives.map
    {property : α → Prop}
    {wanted : β → Prop}
    {read : Read α}
    {change : α → β}
    (gives : Gives property read)
    (changed : ∀ result, property result → wanted (change result)) :
    Gives wanted (read.map fun (result, rest) => (change result, rest)) := by
  cases read with
  | error stopped =>
      trivial
  | ok returned =>
      exact changed returned.1 gives

/-! ## Numbers -/

/-- A number of either kind. -/
inductive IsNumber :
    Json →
    Prop where
  | integer (value : WideInteger) : IsNumber (.integer value)
  | float (value : Binary64) : IsNumber (.float value)

section Numbers

variable
  (negative : Bool)
  (significand : Nat)

theorem floatOfParts_gives
    (exponent : Int)
    (rest : List Char) :
    Gives IsNumber (floatOfParts negative significand exponent rest) := by
  unfold floatOfParts
  split
  · exact .float _
  · trivial

theorem exponentDigits_gives
    (start : Int)
    (downward : Bool)
    (gathered : Nat)
    (text : List Char) :
    Gives IsNumber
      (exponentDigits negative significand start downward gathered text) := by
  induction text generalizing gathered with
  | nil =>
      exact floatOfParts_gives negative significand _ _
  | cons c rest inductionHypothesis =>
      unfold exponentDigits
      split
      · dsimp only
        split
        · exact inductionHypothesis _
        split
        · trivial
        · exact .float _
      · exact floatOfParts_gives negative significand _ _

theorem exponentPart_gives
    (start : Int)
    (text : List Char) :
    Gives IsNumber (exponentPart negative significand start text) := by
  unfold exponentPart
  split
  split
  · trivial
  split
  · exact exponentDigits_gives negative significand start _ _ _
  · trivial

theorem floatTail_gives
    (exponent : Int)
    (text : List Char) :
    Gives IsNumber (floatTail negative significand exponent text) := by
  unfold floatTail
  split
  · exact exponentPart_gives negative significand exponent _
  · exact exponentPart_gives negative significand exponent _
  · exact floatOfParts_gives negative significand exponent _

theorem fractionDigits_gives
    (exponent : Int)
    (text : List Char) :
    Gives IsNumber (fractionDigits negative significand exponent text) := by
  induction text generalizing significand exponent with
  | nil =>
      exact floatTail_gives negative significand exponent []
  | cons c rest inductionHypothesis =>
      unfold fractionDigits
      split
      · dsimp only
        split
        · exact inductionHypothesis _ _
        · exact floatTail_gives negative significand exponent _
      · exact floatTail_gives negative significand exponent _

theorem fraction_gives
    (exponent : Int)
    (text : List Char) :
    Gives IsNumber (fraction negative significand exponent text) := by
  unfold fraction
  split
  · trivial
  split
  · exact fractionDigits_gives negative significand exponent _
  · trivial

theorem longInteger_gives
    (exponent : Int)
    (text : List Char) :
    Gives IsNumber (longInteger negative significand exponent text) := by
  induction text generalizing exponent with
  | nil =>
      exact floatTail_gives negative significand exponent []
  | cons c rest inductionHypothesis =>
      unfold longInteger
      split
      · exact inductionHypothesis _
      split
      · exact fraction_gives negative significand exponent rest
      · exact floatTail_gives negative significand exponent _

theorem isNumber_wholeNumber :
    IsNumber (wholeNumber negative significand) := by
  unfold wholeNumber
  dsimp only
  split
  · split
    · exact .float _
    · exact .integer _
  · exact .float _

theorem numberTail_gives
    (text : List Char) :
    Gives IsNumber (numberTail negative significand text) := by
  unfold numberTail
  split
  · exact fraction_gives negative significand 0 _
  · exact exponentPart_gives negative significand 0 _
  · exact exponentPart_gives negative significand 0 _
  · exact isNumber_wholeNumber negative significand

theorem wholeDigits_gives
    (text : List Char) :
    Gives IsNumber (wholeDigits negative significand text) := by
  induction text generalizing significand with
  | nil =>
      exact numberTail_gives negative significand []
  | cons c rest inductionHypothesis =>
      unfold wholeDigits
      split
      · dsimp only
        split
        · exact inductionHypothesis _
        · exact longInteger_gives negative significand 1 rest
      · exact numberTail_gives negative significand _

end Numbers

theorem number_gives
    (negative : Bool)
    (text : List Char) :
    Gives IsNumber (number negative text) := by
  unfold number
  split
  · trivial
  · split
    · split
      · trivial
      · exact numberTail_gives negative 0 _
    · exact numberTail_gives negative 0 []
  · split
    · exact wholeDigits_gives negative _ _
    · trivial

/-! ## Values -/

/--
A value as a reader returns it that may open a number of containers inside one
another.
-/
structure Stored
    (bound : Nat)
    (value : Json) : Prop where
  isOrdered : value.Ordered
  depth_le : value.depth ≤ bound

/-- Members as a reader returns them. -/
structure StoredMembers
    (bound : Nat)
    (members : Members) : Prop where
  increasing : members.Increasing
  inside : ∀ member ∈ members, Stored bound member.2

theorem Stored.of_isNumber
    {value : Json}
    (bound : Nat)
    (isNumber : IsNumber value) :
    Stored bound value := by
  cases isNumber with
  | integer value => exact ⟨.integer value, Nat.zero_le bound⟩
  | float value => exact ⟨.float value, Nat.zero_le bound⟩

theorem Gives.storedNumber
    {read : Read Json}
    (gives : Gives IsNumber read)
    (bound : Nat) :
    Gives (Stored bound) read := by
  cases read with
  | error stopped =>
      trivial
  | ok returned =>
      exact .of_isNumber bound gives

theorem Stored.array
    {bound : Nat}
    {elements : List Json}
    (inside : ∀ element ∈ elements, Stored bound element) :
    Stored (bound + 1) (.array elements) where
  isOrdered := .array fun element member => (inside element member).isOrdered
  depth_le := depth_array_le_succ_iff.mpr fun element member =>
    (inside element member).depth_le

theorem Stored.object
    {bound : Nat}
    {members : Members}
    (stored : StoredMembers bound members) :
    Stored (bound + 1) (.object members) where
  isOrdered := .object stored.increasing fun member isMember =>
    (stored.inside member isMember).isOrdered
  depth_le := depth_object_le_succ_iff.mpr fun member isMember =>
    (stored.inside member isMember).depth_le

theorem StoredMembers.empty
    (bound : Nat) :
    StoredMembers bound [] where
  increasing := List.Pairwise.nil
  inside := by simp

/-- One more member is stored at its place. -/
theorem StoredMembers.insert
    {bound : Nat}
    {members : Members}
    (stored : StoredMembers bound members)
    (name : String)
    {value : Json}
    (valueStored : Stored bound value) :
    StoredMembers bound (members.insert name value) where
  increasing := stored.increasing.insert name value
  inside := by
    intro member isMember
    rcases Members.mem_of_mem_insert isMember with isNew | before
    · exact isNew ▸ valueStored
    · exact stored.inside member before

theorem word_gives
    {property : Json → Prop}
    {result : Json}
    (holds : property result)
    (letters text : List Char) :
    Gives property (word result letters text) := by
  induction letters generalizing text with
  | nil =>
      exact holds
  | cons expected letters inductionHypothesis =>
      cases text with
      | nil =>
          trivial
      | cons c rest =>
          unfold word
          split
          · exact inductionHypothesis rest
          · trivial

section Containers

variable
  {item : List Char → Read Json}
  {bound : Nat}
  (itemGives : ∀ text, Gives (Stored bound) (item text))

include itemGives

/--
The elements after the first: the induction is on the rounds, over the elements
taken before.
-/
theorem elements_gives
    (rounds : Nat)
    {taken : List Json}
    (takenStored : ∀ element ∈ taken, Stored bound element)
    (text : List Char) :
    Gives (fun result => ∀ element ∈ result, Stored bound element)
      (elements item rounds taken text) := by
  induction rounds generalizing taken text with
  | zero =>
      trivial
  | succ rounds inductionHypothesis =>
      unfold elements
      split
      · trivial
      · exact fun element member =>
          takenStored element (List.mem_reverse.mp member)
      · split
        · trivial
        · trivial
        · split
          · trivial
          · next value after isOk =>
              apply inductionHypothesis
              intro element member
              rcases List.mem_cons.mp member with isNew | before
              · exact isNew ▸ (itemGives _).of_ok isOk
              · exact takenStored element before
      · trivial

theorem arrayBody_gives
    (rounds : Nat)
    (text : List Char) :
    Gives (fun result => ∀ element ∈ result, Stored bound element)
      (arrayBody item rounds text) := by
  unfold arrayBody
  split
  · trivial
  · simp [Gives]
  · split
    · trivial
    · next value after isOk =>
        apply elements_gives itemGives
        intro element member
        rw [List.mem_singleton.mp member]
        exact (itemGives _).of_ok isOk

theorem member_gives
    (text : List Char) :
    Gives (fun result => Stored bound result.2) (member item text) := by
  unfold member
  split
  · trivial
  split
  · trivial
  · split
    · trivial
    · next value left isOk =>
        exact (itemGives _).of_ok isOk
  · trivial

theorem members_gives
    (rounds : Nat)
    {taken : Members}
    (takenStored : StoredMembers bound taken)
    (text : List Char) :
    Gives (StoredMembers bound) (members item rounds taken text) := by
  induction rounds generalizing taken text with
  | zero =>
      trivial
  | succ rounds inductionHypothesis =>
      unfold members
      split
      · trivial
      · exact takenStored
      · split
        · trivial
        · trivial
        · split
          · trivial
          · next name value after isOk =>
              apply inductionHypothesis
              exact takenStored.insert name
                ((member_gives itemGives _).of_ok isOk)
        · trivial
      · trivial

theorem objectBody_gives
    (rounds : Nat)
    (text : List Char) :
    Gives (StoredMembers bound) (objectBody item rounds text) := by
  unfold objectBody
  split
  · trivial
  · exact .empty bound
  · split
    · trivial
    · next name value after isOk =>
        apply members_gives itemGives
        exact (StoredMembers.empty bound).insert name
          ((member_gives itemGives _).of_ok isOk)
  · trivial

end Containers

/-- One value, when the values inside it are known to be stored. -/
theorem value_gives_of_inner
    {rounds depth : Nat}
    (innerGives : ∀ inner, depth = inner + 1 →
      ∀ text, Gives (Stored inner) (value rounds inner text))
    (text : List Char) :
    Gives (Stored depth) (value rounds depth text) := by
  unfold value
  split
  · trivial
  split
  · exact word_gives ⟨.null, Nat.zero_le depth⟩ _ _
  split
  · exact word_gives ⟨.bool true, Nat.zero_le depth⟩ _ _
  split
  · exact word_gives ⟨.bool false, Nat.zero_le depth⟩ _ _
  split
  · exact (number_gives true _).storedNumber depth
  split
  · exact (number_gives false _).storedNumber depth
  split
  · exact (Gives.any _).map fun text _ => ⟨.string text, Nat.zero_le depth⟩
  split
  · split
    · trivial
    · next inner =>
        exact (arrayBody_gives (innerGives inner rfl) rounds _).map fun _ =>
          Stored.array
  split
  · split
    · trivial
    · next inner =>
        exact (objectBody_gives (innerGives inner rfl) rounds _).map fun _ =>
          Stored.object
  · trivial

/-- Whatever is read is in order and opens no more containers than it may. -/
theorem value_gives
    (rounds depth : Nat)
    (text : List Char) :
    Gives (Stored depth) (value rounds depth text) := by
  induction depth generalizing text with
  | zero =>
      exact value_gives_of_inner (by simp) text
  | succ depth inductionHypothesis =>
      apply value_gives_of_inner
      intro inner same
      cases same
      exact inductionHypothesis

/-- A text that is one value stores it within the limit of nesting. -/
theorem stored_of_read
    {text : List Char}
    {result : Json}
    (isOk : read text = .ok result) :
    Stored nestingLimit result := by
  unfold read at isOk
  split at isOk
  · cases isOk
  · next returned rest valueOk =>
      have stored := (value_gives text.length nestingLimit text).of_ok valueOk
      split at isOk
      · cases isOk
        exact stored
      · cases isOk

theorem stored_of_parse
    {text : String}
    {result : Json}
    (isOk : parse text = .ok result) :
    Stored nestingLimit result := by
  unfold parse at isOk
  cases outcome : read text.toList with
  | error stopped =>
      rw [outcome] at isOk
      cases isOk
  | ok returned =>
      rw [outcome] at isOk
      cases isOk
      exact stored_of_read outcome

end WorkflowQueue.Json
