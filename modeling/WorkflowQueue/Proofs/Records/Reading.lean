import Mathlib.Data.List.Forall2
import WorkflowQueue.Proofs.Json.Shape
import WorkflowQueue.Record.Playbook
import WorkflowQueue.Record.WorkflowStatus

namespace WorkflowQueue

/-!
# How records are read

When each reader of a record succeeds, and with which content. A record form
first checks every value under the name of a field and then looks its fields up;
both are stated here without the order in which faults are found, since a
success does not depend on it.
-/

/-- A step that succeeds before others. -/
theorem Except.bind_eq_ok_iff
    {step : Except ε α}
    {following : α → Except ε β}
    {result : β} :
    step >>= following = .ok result ↔
      ∃ intermediate, step = .ok intermediate ∧
        following intermediate = .ok result := by
  cases step with
  | error fault =>
      simp [bind, Except.bind]
  | ok intermediate =>
      simp [bind, Except.bind]

/-- A step that fails, or succeeds before one that does. -/
theorem Except.bind_eq_error_iff
    {step : Except ε α}
    {following : α → Except ε β}
    {fault : ε} :
    step >>= following = .error fault ↔
      step = .error fault ∨
        ∃ intermediate, step = .ok intermediate ∧
          following intermediate = .error fault := by
  cases step with
  | error fault =>
      simp [bind, Except.bind]
  | ok intermediate =>
      simp [bind, Except.bind]

theorem Except.pure_eq_ok_iff
    {value result : α} :
    (pure value : Except ε α) = .ok result ↔ value = result := by
  simp [pure, Except.pure]

theorem Except.pure_ne_error
    {value : α}
    {fault : ε} :
    (pure value : Except ε α) ≠ .error fault := by
  simp [pure, Except.pure]

/-! ## Contents -/

theorem readText_eq_ok_iff
    {value : Json}
    {content : String} :
    readText value = .ok content ↔ value = .string content := by
  cases value <;> simp [readText]

theorem readTimestamp_eq_ok_iff
    {value : Json}
    {content : Timestamp} :
    readTimestamp value = .ok content ↔
      ∃ text, value = .string text ∧ Rfc3339.parse text = .ok content := by
  cases value with
  | string text =>
      cases parsed : Rfc3339.parse text <;>
        simp [readTimestamp, parsed, Except.mapError]
  | _ =>
      simp [readTimestamp]

/-- A token is read as the state that it stands for. -/
theorem mapText_eq_ok_iff
    {change : String → α}
    {value : Json}
    {content : α} :
    (readText value).map change = .ok content ↔
      ∃ token, value = .string token ∧ content = change token := by
  cases value with
  | string text =>
      simp [readText, Except.map, eq_comm]
  | _ =>
      simp [readText, Except.map]

section Lists

variable
  {read : Json → Except Mismatch α}

/-- Null is no content, and any other value is read as it is. -/
theorem readOptional_eq_ok_iff
    {value : Json}
    {content : Option α} :
    readOptional read value = .ok content ↔
      (value = .null ∧ content = none) ∨
        (value ≠ .null ∧ ∃ inner, read value = .ok inner ∧
          content = some inner) := by
  by_cases isNull : value = .null
  · subst isNull
    simp [readOptional, eq_comm]
  · unfold readOptional
    split
    · exact (isNull rfl).elim
    · cases outcome : read value <;> simp [isNull, eq_comm]

/-- Elements are read one by one, each to its place. -/
theorem readElements_eq_ok_iff
    {elements : List Json}
    {contents : List α} :
    readElements read elements = .ok contents ↔
      List.Forall₂ (fun element content => read element = .ok content) elements
        contents := by
  induction elements generalizing contents with
  | nil =>
      simp [readElements, eq_comm]
  | cons element rest inductionHypothesis =>
      unfold readElements
      cases outcome : read element with
      | error fault =>
          simp [List.forall₂_cons_left_iff, outcome]
      | ok content =>
          cases others : readElements read rest with
          | error fault =>
              simp [List.forall₂_cons_left_iff, ← inductionHypothesis, others]
          | ok values =>
              simp [List.forall₂_cons_left_iff, ← inductionHypothesis, others,
                outcome, eq_comm]

theorem readList_eq_ok_iff
    {value : Json}
    {contents : List α} :
    readList read value = .ok contents ↔
      ∃ elements, value = .array elements ∧
        List.Forall₂ (fun element content => read element = .ok content)
          elements contents := by
  cases value with
  | array elements =>
      simp [readList, readElements_eq_ok_iff]
  | _ =>
      simp [readList]

/-- Elements can be read when each of them can. -/
theorem exists_forall₂_iff
    {relation : α → β → Prop}
    {items : List α} :
    (∃ contents, List.Forall₂ relation items contents) ↔
      ∀ item ∈ items, ∃ content, relation item content := by
  induction items with
  | nil =>
      simp
  | cons item rest inductionHypothesis =>
      rw [List.forall_mem_cons, ← inductionHypothesis]
      constructor
      · rintro ⟨contents, related⟩
        obtain ⟨content, others, first, later, rfl⟩ :=
          List.forall₂_cons_left_iff.mp related
        exact ⟨⟨content, first⟩, others, later⟩
      · rintro ⟨⟨content, first⟩, others, later⟩
        exact ⟨content :: others, .cons first later⟩

/-- What the related elements imply holds of all contents. -/
theorem forall_mem_of_forall₂
    {relation : α → β → Prop}
    {Good : β → Prop}
    {items : List α}
    {contents : List β}
    (related : List.Forall₂ relation items contents)
    (good :
      ∀ item content, item ∈ items → relation item content → Good content) :
    ∀ content ∈ contents, Good content := by
  induction related with
  | nil =>
      simp
  | cons first _ inductionHypothesis =>
      refine List.forall_mem_cons.mpr ⟨good _ _ List.mem_cons_self first, ?_⟩
      exact inductionHypothesis fun item content isItem =>
        good item content (List.mem_cons_of_mem _ isItem)

end Lists

/-! ## Fields -/

namespace Field

variable
  {field : Field α}

/-- A value has no mismatch when it can be read. -/
theorem mismatch?_eq_none_iff
    {value : Json} :
    field.mismatch? value = none ↔
      ∃ content, field.read value = .ok content := by
  unfold mismatch?
  cases field.read value <;> simp

/--
A field is read from the value under its name, or takes the content of an absent
one.
-/
theorem get_eq_ok_iff
    {missing : String → Mismatch}
    {assigned : Json.Members}
    {content : α} :
    field.get missing assigned = .ok content ↔
      (∃ value, assigned.lookup field.name = some value ∧
          field.read value = .ok content) ∨
        (assigned.lookup field.name = none ∧ field.absent = some content) := by
  unfold get
  cases found : assigned.lookup field.name with
  | some value =>
      simp
  | none =>
      cases absent : field.absent <;> simp

end Field

/-! ## Assigned values -/

/-- A name stands for some value when a value is assigned to it. -/
theorem exists_lookup_iff
    {assigned : Json.Members}
    {name : String} :
    (∃ value, assigned.lookup name = some value) ↔
      ∃ value, (name, value) ∈ assigned := by
  constructor
  · rintro ⟨value, found⟩
    exact ⟨value, mem_of_lookup found⟩
  · rintro ⟨value, member⟩
    cases found : assigned.lookup name with
    | some value =>
        exact ⟨value, rfl⟩
    | none =>
        simpa using List.lookup_eq_none_iff.mp found (name, value) member

/--
The values that a JSON value assigns to names: its members, or its elements in
order.
-/
def Json.Assigns
    (names : List String) :
    Json →
    Json.Members →
    Prop
  | .object members, assigned => assigned = members
  | .array elements, assigned =>
      elements.length ≤ names.length ∧ assigned = names.zip elements
  | _, _ => False

/-! ## Record forms -/

namespace RecordForm

variable
  {form : RecordForm α}

/--
Values that suit the fields of their names. Values under other names do not
count.
-/
def Suited
    (form : RecordForm α)
    (assigned : Json.Members) :
    Prop :=
  ∀ check ∈ form.checks, ∀ value, (check.1, value) ∈ assigned →
    check.2 value = none

/--
The checks find nothing when the values suit, since no two fields have one name.
-/
theorem firstMismatch?_eq_none_iff
    (distinct : form.fieldNames.Nodup)
    {assigned : Json.Members} :
    firstMismatch? form.checks assigned = none ↔ form.Suited assigned := by
  unfold firstMismatch?
  rw [List.findSome?_eq_none_iff]
  simp only [Option.bind_eq_none_iff]
  constructor
  · intro passes check isCheck value member
    exact passes (check.1, value) member check.2
      ((lookup_eq_some_iff_mem distinct).mpr isCheck)
  · intro suited entry member mismatch? found
    exact suited (entry.1, mismatch?)
      ((lookup_eq_some_iff_mem distinct).mp found) entry.2 member

theorem ofAssigned_eq_ok_iff
    (distinct : form.fieldNames.Nodup)
    {missing : String → Mismatch}
    {assigned : Json.Members}
    {record : α} :
    form.ofAssigned missing assigned = .ok record ↔
      form.Suited assigned ∧ form.build missing assigned = .ok record := by
  rw [← firstMismatch?_eq_none_iff distinct]
  unfold ofAssigned
  cases firstMismatch? form.checks assigned <;> simp

/-- How a missing field is reported in a value of either form. -/
def missing
    (form : RecordForm α) :
    Json →
    String →
    Mismatch
  | .array _ => form.tooFew
  | _ => .missingField

/-- A record is read from the values that are assigned to its fields' names. -/
theorem read_eq_ok_iff
    (distinct : form.fieldNames.Nodup)
    {value : Json}
    {record : α} :
    form.read value = .ok record ↔
      ∃ assigned, Json.Assigns form.fieldNames value assigned ∧
        form.Suited assigned ∧
        form.build (form.missing value) assigned = .ok record := by
  cases value with
  | object members =>
      simp [read, missing, Json.Assigns, ofAssigned_eq_ok_iff distinct]
  | array elements =>
      simp only [Json.Assigns, missing, and_assoc, exists_and_left,
        exists_eq_left]
      rw [← ofAssigned_eq_ok_iff distinct]
      unfold read
      cases outcome : form.ofAssigned form.tooFew
        (form.fieldNames.zip elements) with
      | error mismatch =>
          simp [outcome]
      | ok found =>
          by_cases tooMany : form.fieldNames.length < elements.length
          · simp [outcome, tooMany, Nat.not_le_of_lt tooMany]
          · simp [outcome, tooMany, Nat.le_of_not_lt tooMany]
  | _ =>
      simp [read, Json.Assigns]

end RecordForm

end WorkflowQueue
