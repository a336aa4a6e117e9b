import WorkflowQueue.Proofs.Records.Reading

namespace WorkflowQueue

/-!
# The slots of records

Every record is read and written field by field. A slot joins a field to the
content that it has in a record, so that what holds of all fields is stated once
and the four records differ only in their lists of slots.
-/

/-- A field of a record together with its content in a record. -/
structure Slot (α : Type) where
  Content : Type
  wire : Wire Content
  field : Field Content
  content : α → Content
  reader_eq : field.read = wire.ofJson

namespace Slot

/-- The slot of a field. -/
def of
    [wire : Wire β]
    (field : Field β)
    (content : α → β)
    (reader_eq : field.read = Wire.ofJson) :
    Slot α where
  Content := β
  wire := wire
  field := field
  content := content
  reader_eq := reader_eq

instance
    (slot : Slot α) :
    Wire slot.Content :=
  slot.wire

/-- The member that a record is written with at a slot. -/
def member
    (slot : Slot α)
    (record : α) :
    String × Json :=
  (slot.field.name, Wire.toJson (slot.content record))

end Slot

/-- A record that is read and written slot by slot. -/
structure RecordForm.Consists
    [Wire α]
    (form : RecordForm α)
    (slots : List (Slot α)) :
    Prop where
  ofJson_eq : (Wire.ofJson : Json → Except Mismatch α) = form.read
  toJson_eq : ∀ record : α, Wire.toJson record =
    .object (slots.map fun slot => slot.member record)
  checks_eq : form.checks = slots.map fun slot => slot.field.check
  distinct : form.fieldNames.Nodup
  build_eq_ok_iff :
    ∀ {missing assigned record},
      form.build missing assigned = .ok record ↔
        ∀ slot ∈ slots, slot.field.get missing assigned =
          .ok (slot.content record)
  exists_build :
    ∀ {missing assigned},
      (∀ slot ∈ slots, ∃ content, slot.field.get missing assigned =
          .ok content) →
        ∃ record, form.build missing assigned = .ok record

/--
A record that is read has the contents of its fields among the values assigned
to them.
-/
theorem RecordForm.Consists.gets_of_ofJson
    [Wire α]
    {form : RecordForm α}
    {slots : List (Slot α)}
    (consists : form.Consists slots)
    {value : Json}
    {record : α}
    (isRead : Wire.ofJson value = .ok record) :
    ∃ members, Json.Assigns form.fieldNames value members ∧
      ∀ slot ∈ slots, slot.field.get (form.missing value) members =
        .ok (slot.content record) := by
  rw [consists.ofJson_eq, read_eq_ok_iff consists.distinct] at isRead
  obtain ⟨members, assigns, -, built⟩ := isRead
  exact ⟨members, assigns, consists.build_eq_ok_iff.mp built⟩

namespace WorkflowSummary

/-- The slots of a workflow in a playbook. -/
def slots : List (Slot WorkflowSummary) := [
  .of idField id rfl,
  .of nameField name rfl
]

theorem consists : form.Consists slots where
  ofJson_eq := rfl
  toJson_eq _ := rfl
  checks_eq := rfl
  distinct := by decide
  build_eq_ok_iff := by
    intro missing assigned record
    simp only [form, slots, Slot.of, Except.bind_eq_ok_iff,
      Except.pure_eq_ok_iff, List.forall_mem_cons]
    constructor
    · rintro ⟨_, id, _, name, rfl⟩
      exact ⟨id, name, List.forall_mem_nil _⟩
    · rintro ⟨id, name, -⟩
      exact ⟨_, id, _, name, rfl⟩
  exists_build := by
    simp only [form, slots, Slot.of, Except.bind_eq_ok_iff,
      Except.pure_eq_ok_iff, List.forall_mem_cons]
    rintro missing assigned ⟨⟨_, id⟩, ⟨_, name⟩, -⟩
    exact ⟨_, _, id, _, name, rfl⟩

end WorkflowSummary

namespace Playbook

/-- The slots of a playbook. -/
def slots : List (Slot Playbook) := [
  .of idField id rfl,
  .of nameField name rfl,
  .of workflowsField workflows rfl
]

theorem consists : form.Consists slots where
  ofJson_eq := rfl
  toJson_eq _ := rfl
  checks_eq := rfl
  distinct := by decide
  build_eq_ok_iff := by
    intro missing assigned record
    simp only [form, slots, Slot.of, Except.bind_eq_ok_iff,
      Except.pure_eq_ok_iff, List.forall_mem_cons]
    constructor
    · rintro ⟨_, id, _, name, _, workflows, rfl⟩
      exact ⟨id, name, workflows, List.forall_mem_nil _⟩
    · rintro ⟨id, name, workflows, -⟩
      exact ⟨_, id, _, name, _, workflows, rfl⟩
  exists_build := by
    simp only [form, slots, Slot.of, Except.bind_eq_ok_iff,
      Except.pure_eq_ok_iff, List.forall_mem_cons]
    rintro missing assigned ⟨⟨_, id⟩, ⟨_, name⟩, ⟨_, workflows⟩, -⟩
    exact ⟨_, _, id, _, name, _, workflows, rfl⟩

end Playbook

namespace ActionStatus

/-- The slots of an action's status. -/
def slots : List (Slot ActionStatus) := [
  .of executionIdField executionId rfl,
  .of actionIdField actionId rfl,
  .of nameField name rfl,
  .of appNameField appName rfl,
  .of actionNameField actionName rfl,
  .of statusField status rfl,
  .of argumentsField arguments rfl,
  .of resultField result rfl,
  .of startedAtField startedAt rfl,
  .of completedAtField completedAt rfl
]

theorem consists : form.Consists slots where
  ofJson_eq := rfl
  toJson_eq _ := rfl
  checks_eq := rfl
  distinct := by decide
  build_eq_ok_iff := by
    intro missing assigned record
    simp only [form, slots, Slot.of, Except.bind_eq_ok_iff,
      Except.pure_eq_ok_iff, List.forall_mem_cons]
    constructor
    · rintro ⟨_, executionId, _, actionId, _, name, _, appName, _, actionName,
        _, status, _, arguments, _, result, _, startedAt, _, completedAt, rfl⟩
      exact ⟨executionId, actionId, name, appName, actionName, status,
        arguments, result, startedAt, completedAt, List.forall_mem_nil _⟩
    · rintro ⟨executionId, actionId, name, appName, actionName, status,
        arguments, result, startedAt, completedAt, -⟩
      exact ⟨_, executionId, _, actionId, _, name, _, appName, _, actionName, _,
        status, _, arguments, _, result, _, startedAt, _, completedAt, rfl⟩
  exists_build := by
    simp only [form, slots, Slot.of, Except.bind_eq_ok_iff,
      Except.pure_eq_ok_iff, List.forall_mem_cons]
    rintro missing assigned ⟨⟨_, executionId⟩, ⟨_, actionId⟩, ⟨_, name⟩,
      ⟨_, appName⟩, ⟨_, actionName⟩, ⟨_, status⟩, ⟨_, arguments⟩, ⟨_, result⟩,
      ⟨_, startedAt⟩, ⟨_, completedAt⟩, -⟩
    exact ⟨_, _, executionId, _, actionId, _, name, _, appName, _, actionName,
      _, status, _, arguments, _, result, _, startedAt, _, completedAt, rfl⟩

end ActionStatus

namespace WorkflowStatus

/-- The slots of an execution's status. -/
def slots : List (Slot WorkflowStatus) := [
  .of executionIdField executionId rfl,
  .of workflowIdField workflowId rfl,
  .of nameField name rfl,
  .of statusField status rfl,
  .of startedAtField startedAt rfl,
  .of completedAtField completedAt rfl,
  .of userField user rfl,
  .of actionStatusesField actionStatuses rfl
]

theorem consists : form.Consists slots where
  ofJson_eq := rfl
  toJson_eq _ := rfl
  checks_eq := rfl
  distinct := by decide
  build_eq_ok_iff := by
    intro missing assigned record
    simp only [form, slots, Slot.of, Except.bind_eq_ok_iff,
      Except.pure_eq_ok_iff, List.forall_mem_cons]
    constructor
    · rintro ⟨_, executionId, _, workflowId, _, name, _, status, _, startedAt,
        _, completedAt, _, user, _, actionStatuses, rfl⟩
      exact ⟨executionId, workflowId, name, status, startedAt, completedAt,
        user, actionStatuses, List.forall_mem_nil _⟩
    · rintro ⟨executionId, workflowId, name, status, startedAt, completedAt,
        user, actionStatuses, -⟩
      exact ⟨_, executionId, _, workflowId, _, name, _, status, _, startedAt, _,
        completedAt, _, user, _, actionStatuses, rfl⟩
  exists_build := by
    simp only [form, slots, Slot.of, Except.bind_eq_ok_iff,
      Except.pure_eq_ok_iff, List.forall_mem_cons]
    rintro missing assigned ⟨⟨_, executionId⟩, ⟨_, workflowId⟩, ⟨_, name⟩,
      ⟨_, status⟩, ⟨_, startedAt⟩, ⟨_, completedAt⟩, ⟨_, user⟩,
      ⟨_, actionStatuses⟩, -⟩
    exact ⟨_, _, executionId, _, workflowId, _, name, _, status, _, startedAt,
      _, completedAt, _, user, _, actionStatuses, rfl⟩

end WorkflowStatus

end WorkflowQueue
