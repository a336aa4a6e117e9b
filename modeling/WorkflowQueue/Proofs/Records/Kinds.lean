import WorkflowQueue.Proofs.Records.Grammar

namespace WorkflowQueue

/-!
# The grammars of the records

The grammar of each record, and the content that each of its fields takes from a
value that is read. `RecordKind.reads_grammar` states both for all records and
for lists of them.
-/

/-! ## Grammars -/

/-- The grammar of a workflow in a playbook. -/
def WorkflowSummary.grammar : Grammar where
  rules := [
    .required "id" Json.IsText,
    .required "name" Json.IsText
  ]
  least := 2
  distinct := by decide
  least_eq := rfl

/-- The grammar of a playbook. -/
def Playbook.grammar : Grammar where
  rules := [
    .required "id" Json.IsText,
    .required "name" Json.IsText,
    .list "workflows" WorkflowSummary.grammar.Accepts
  ]
  least := 2
  distinct := by decide
  least_eq := rfl

/-- The grammar of an action's status. -/
def ActionStatus.grammar : Grammar where
  rules := [
    .required "execution_id" Json.IsText,
    .required "action_id" Json.IsText,
    .required "name" Json.IsText,
    .required "app_name" Json.IsText,
    .required "action_name" Json.IsText,
    .required "status" Json.IsText,
    .optional "arguments" Json.IsAny,
    .optional "result" Json.IsAny,
    .optional "started_at" Json.IsTimestamp,
    .optional "completed_at" Json.IsTimestamp
  ]
  least := 6
  distinct := by decide
  least_eq := rfl

/-- The grammar of an execution's status. -/
def WorkflowStatus.grammar : Grammar where
  rules := [
    .required "execution_id" Json.IsText,
    .optional "workflow_id" Json.IsText,
    .optional "name" Json.IsText,
    .required "status" Json.IsText,
    .optional "started_at" Json.IsTimestamp,
    .optional "completed_at" Json.IsTimestamp,
    .optional "user" Json.IsText,
    .list "action_statuses" ActionStatus.grammar.Accepts
  ]
  least := 4
  distinct := by decide
  least_eq := rfl

theorem WorkflowSummary.obeys :
    List.Forall₂ (fun slot rule => slot.field.Obeys rule) slots grammar.rules :=
  .cons (Field.required_obeys (fun _ => exists_ofJson_text_iff) _) <|
  .cons (Field.required_obeys (fun _ => exists_ofJson_text_iff) _)
  .nil

theorem Playbook.obeys :
    List.Forall₂ (fun slot rule => slot.field.Obeys rule) slots grammar.rules :=
  .cons (Field.required_obeys (fun _ => exists_ofJson_text_iff) _) <|
  .cons (Field.required_obeys (fun _ => exists_ofJson_text_iff) _) <|
  .cons (Field.list_obeys
    (fun _ => WorkflowSummary.consists.exists_ofJson_iff WorkflowSummary.obeys)
      _)
  .nil

theorem ActionStatus.obeys :
    List.Forall₂ (fun slot rule => slot.field.Obeys rule) slots grammar.rules :=
  .cons (Field.required_obeys (fun _ => exists_ofJson_text_iff) _) <|
  .cons (Field.required_obeys (fun _ => exists_ofJson_text_iff) _) <|
  .cons (Field.required_obeys (fun _ => exists_ofJson_text_iff) _) <|
  .cons (Field.required_obeys (fun _ => exists_ofJson_text_iff) _) <|
  .cons (Field.required_obeys (fun _ => exists_ofJson_text_iff) _) <|
  .cons (Field.required_obeys (fun _ => exists_ofJson_actionState_iff) _) <|
  .cons (Field.optional_obeys (fun _ => exists_ofJson_any_iff) _) <|
  .cons (Field.optional_obeys (fun _ => exists_ofJson_any_iff) _) <|
  .cons (Field.optional_obeys (fun _ => exists_ofJson_timestamp_iff) _) <|
  .cons (Field.optional_obeys (fun _ => exists_ofJson_timestamp_iff) _)
  .nil

theorem WorkflowStatus.obeys :
    List.Forall₂ (fun slot rule => slot.field.Obeys rule) slots grammar.rules :=
  .cons (Field.required_obeys (fun _ => exists_ofJson_text_iff) _) <|
  .cons (Field.optional_obeys (fun _ => exists_ofJson_text_iff) _) <|
  .cons (Field.optional_obeys (fun _ => exists_ofJson_text_iff) _) <|
  .cons (Field.required_obeys (fun _ => exists_ofJson_executionState_iff) _) <|
  .cons (Field.optional_obeys (fun _ => exists_ofJson_timestamp_iff) _) <|
  .cons (Field.optional_obeys (fun _ => exists_ofJson_timestamp_iff) _) <|
  .cons (Field.optional_obeys (fun _ => exists_ofJson_text_iff) _) <|
  .cons (Field.list_obeys
    (fun _ => ActionStatus.consists.exists_ofJson_iff ActionStatus.obeys) _)
  .nil

/-! ## Contents -/

namespace Json

/-- The text itself. -/
def HoldsText
    (value : Json)
    (content : String) :
    Prop :=
  value = .string content

/-- The instant that a text writes. -/
def HoldsTimestamp
    (value : Json)
    (content : Timestamp) :
    Prop :=
  ∃ text, value = .string text ∧ Rfc3339.parse text = .ok content

/-- The state that a token stands for. -/
def HoldsState
    (ofToken : String → α)
    (value : Json)
    (content : α) :
    Prop :=
  ∃ token, value = .string token ∧ content = ofToken token

/-- The value itself, whatever it is. -/
def HoldsAny
    (value content : Json) :
    Prop :=
  content = value

/-- Nothing for null, and otherwise the content of the value. -/
def HoldsOption
    (Holds : Json → α → Prop)
    (value : Json)
    (content : Option α) :
    Prop :=
  (value = .null ∧ content = none) ∨
    (value ≠ .null ∧ ∃ inner, Holds value inner ∧ content = some inner)

/-- The contents of the elements, in order. -/
def HoldsList
    (Holds : Json → α → Prop)
    (value : Json)
    (contents : List α) :
    Prop :=
  ∃ elements, value = .array elements ∧ List.Forall₂ Holds elements contents

/--
A record of the members of an object, or of the elements in the places of the
names.
-/
def HoldsRecord
    (names : List String)
    (Contents : Members → α → Prop)
    (value : Json)
    (record : α) :
    Prop :=
  ∃ members, Assigns names value members ∧ Contents members record

/--
The content of the value under a name, or `absent` when nothing has the name.
-/
def Members.Gives
    (members : Members)
    (name : String)
    (Holds : Json → α → Prop)
    (absent : Option α)
    (content : α) :
    Prop :=
  (∃ value, members.lookup name = some value ∧ Holds value content) ∨
    (members.lookup name = none ∧ absent = some content)

end Json

section Contents

open Json

theorem holdsText_of_ofJson
    (value : Json)
    (content : String)
    (isRead : Wire.ofJson value = .ok content) :
    HoldsText value content :=
  readText_eq_ok_iff.mp isRead

theorem holdsTimestamp_of_ofJson
    (value : Json)
    (content : Timestamp)
    (isRead : Wire.ofJson value = .ok content) :
    HoldsTimestamp value content :=
  readTimestamp_eq_ok_iff.mp isRead

theorem holdsState_of_map
    {ofToken : String → β}
    (value : Json)
    (content : β)
    (isRead : (readText value).map ofToken = .ok content) :
    HoldsState ofToken value content :=
  mapText_eq_ok_iff.mp isRead

theorem holdsAny_of_ofJson
    (value content : Json)
    (isRead : Wire.ofJson value = .ok content) :
    HoldsAny value content :=
  (Except.ok.inj isRead).symm

variable
  [Wire α]
  {Holds : Json → α → Prop}

theorem holdsOption_of_ofJson
    (holds :
      ∀ value content, Wire.ofJson value = .ok content → Holds value content)
    (value : Json)
    (content : Option α)
    (isRead : Wire.ofJson value = .ok content) :
    HoldsOption Holds value content :=
  (readOptional_eq_ok_iff.mp isRead).imp_right
      fun ⟨notNull, inner, innerRead, isSome⟩ =>
    ⟨notNull, inner, holds value inner innerRead, isSome⟩

theorem holdsList_of_ofJson
    (holds :
      ∀ value content, Wire.ofJson value = .ok content → Holds value content)
    (value : Json)
    (contents : List α)
    (isRead : Wire.ofJson value = .ok contents) :
    HoldsList Holds value contents := by
  obtain ⟨elements, isArray, related⟩ := readList_eq_ok_iff.mp isRead
  exact ⟨elements, isArray, related.imp holds⟩

/-- A field that is found has the content of its value. -/
theorem Field.gives_of_get
    {field : Field β}
    {Holds : Json → β → Prop}
    (holds :
      ∀ value content, field.read value = .ok content → Holds value content)
    {missing : String → Mismatch}
    {members : Json.Members}
    {content : β}
    (found : field.get missing members = .ok content) :
    members.Gives field.name Holds field.absent content :=
  (Field.get_eq_ok_iff.mp found).imp_left fun ⟨value, named, isRead⟩ =>
    ⟨value, named, holds value content isRead⟩

end Contents

open Json

/-- The contents of a workflow in a playbook. -/
structure WorkflowSummary.Contents
    (members : Json.Members)
    (workflow : WorkflowSummary) :
    Prop where
  id : members.Gives "id" HoldsText none workflow.id
  name : members.Gives "name" HoldsText none workflow.name

/-- The contents of a playbook. -/
structure Playbook.Contents
    (members : Json.Members)
    (playbook : Playbook) :
    Prop where
  id : members.Gives "id" HoldsText none playbook.id
  name : members.Gives "name" HoldsText none playbook.name
  workflows :
    members.Gives "workflows"
      (HoldsList (HoldsRecord WorkflowSummary.grammar.names
        WorkflowSummary.Contents))
      (some []) playbook.workflows

/-- The contents of an action's status. -/
structure ActionStatus.Contents
    (members : Json.Members)
    (action : ActionStatus) :
    Prop where
  executionId : members.Gives "execution_id" HoldsText none action.executionId
  actionId : members.Gives "action_id" HoldsText none action.actionId
  name : members.Gives "name" HoldsText none action.name
  appName : members.Gives "app_name" HoldsText none action.appName
  actionName : members.Gives "action_name" HoldsText none action.actionName
  status :
    members.Gives "status" (HoldsState ActionState.ofToken) none action.status
  arguments :
    members.Gives "arguments" (HoldsOption HoldsAny) (some none)
      action.arguments
  result :
    members.Gives "result" (HoldsOption HoldsAny) (some none) action.result
  startedAt :
    members.Gives "started_at" (HoldsOption HoldsTimestamp) (some none)
      action.startedAt
  completedAt :
    members.Gives "completed_at" (HoldsOption HoldsTimestamp) (some none)
      action.completedAt

/-- The contents of an execution's status. -/
structure WorkflowStatus.Contents
    (members : Json.Members)
    (execution : WorkflowStatus) :
    Prop where
  executionId :
    members.Gives "execution_id" HoldsText none execution.executionId
  workflowId :
    members.Gives "workflow_id" (HoldsOption HoldsText) (some none)
      execution.workflowId
  name : members.Gives "name" (HoldsOption HoldsText) (some none) execution.name
  status :
    members.Gives "status" (HoldsState ExecutionState.ofToken) none
      execution.status
  startedAt :
    members.Gives "started_at" (HoldsOption HoldsTimestamp) (some none)
      execution.startedAt
  completedAt :
    members.Gives "completed_at" (HoldsOption HoldsTimestamp) (some none)
      execution.completedAt
  user : members.Gives "user" (HoldsOption HoldsText) (some none) execution.user
  actionStatuses :
    members.Gives "action_statuses"
      (HoldsList (HoldsRecord ActionStatus.grammar.names ActionStatus.Contents))
      (some []) execution.actionStatuses

theorem WorkflowSummary.holdsRecord_of_ofJson
    (value : Json)
    (workflow : WorkflowSummary)
    (isRead : Wire.ofJson value = .ok workflow) :
    HoldsRecord grammar.names Contents value workflow := by
  obtain ⟨members, assigns, gets⟩ := consists.gets_of_ofJson isRead
  rw [consists.fieldNames_eq obeys] at assigns
  simp only [slots, List.forall_mem_cons] at gets
  obtain ⟨id, name, -⟩ := gets
  exact ⟨members, assigns, {
    id := Field.gives_of_get holdsText_of_ofJson id
    name := Field.gives_of_get holdsText_of_ofJson name
  }⟩

theorem Playbook.holdsRecord_of_ofJson
    (value : Json)
    (playbook : Playbook)
    (isRead : Wire.ofJson value = .ok playbook) :
    HoldsRecord grammar.names Contents value playbook := by
  obtain ⟨members, assigns, gets⟩ := consists.gets_of_ofJson isRead
  rw [consists.fieldNames_eq obeys] at assigns
  simp only [slots, List.forall_mem_cons] at gets
  obtain ⟨id, name, workflows, -⟩ := gets
  exact ⟨members, assigns, {
    id := Field.gives_of_get holdsText_of_ofJson id
    name := Field.gives_of_get holdsText_of_ofJson name
    workflows :=
      Field.gives_of_get
        (holdsList_of_ofJson WorkflowSummary.holdsRecord_of_ofJson) workflows
  }⟩

theorem ActionStatus.holdsRecord_of_ofJson
    (value : Json)
    (action : ActionStatus)
    (isRead : Wire.ofJson value = .ok action) :
    HoldsRecord grammar.names Contents value action := by
  obtain ⟨members, assigns, gets⟩ := consists.gets_of_ofJson isRead
  rw [consists.fieldNames_eq obeys] at assigns
  simp only [slots, List.forall_mem_cons] at gets
  obtain ⟨executionId, actionId, name, appName, actionName, status, arguments,
    result, startedAt, completedAt, -⟩ := gets
  exact ⟨members, assigns, {
    executionId := Field.gives_of_get holdsText_of_ofJson executionId
    actionId := Field.gives_of_get holdsText_of_ofJson actionId
    name := Field.gives_of_get holdsText_of_ofJson name
    appName := Field.gives_of_get holdsText_of_ofJson appName
    actionName := Field.gives_of_get holdsText_of_ofJson actionName
    status := Field.gives_of_get holdsState_of_map status
    arguments :=
      Field.gives_of_get (holdsOption_of_ofJson holdsAny_of_ofJson) arguments
    result :=
      Field.gives_of_get (holdsOption_of_ofJson holdsAny_of_ofJson) result
    startedAt :=
      Field.gives_of_get
        (holdsOption_of_ofJson holdsTimestamp_of_ofJson) startedAt
    completedAt :=
      Field.gives_of_get
        (holdsOption_of_ofJson holdsTimestamp_of_ofJson) completedAt
  }⟩

theorem WorkflowStatus.holdsRecord_of_ofJson
    (value : Json)
    (execution : WorkflowStatus)
    (isRead : Wire.ofJson value = .ok execution) :
    HoldsRecord grammar.names Contents value execution := by
  obtain ⟨members, assigns, gets⟩ := consists.gets_of_ofJson isRead
  rw [consists.fieldNames_eq obeys] at assigns
  simp only [slots, List.forall_mem_cons] at gets
  obtain ⟨executionId, workflowId, name, status, startedAt, completedAt, user,
    actionStatuses, -⟩ := gets
  exact ⟨members, assigns, {
    executionId := Field.gives_of_get holdsText_of_ofJson executionId
    workflowId :=
      Field.gives_of_get (holdsOption_of_ofJson holdsText_of_ofJson) workflowId
    name := Field.gives_of_get (holdsOption_of_ofJson holdsText_of_ofJson) name
    status := Field.gives_of_get holdsState_of_map status
    startedAt :=
      Field.gives_of_get
        (holdsOption_of_ofJson holdsTimestamp_of_ofJson) startedAt
    completedAt :=
      Field.gives_of_get
        (holdsOption_of_ofJson holdsTimestamp_of_ofJson) completedAt
    user := Field.gives_of_get (holdsOption_of_ofJson holdsText_of_ofJson) user
    actionStatuses :=
      Field.gives_of_get
        (holdsList_of_ofJson ActionStatus.holdsRecord_of_ofJson) actionStatuses
  }⟩

/-! ## All records -/

/-- The records that a response can carry. -/
inductive RecordKind where
  | workflowStatus
  | actionStatus
  | playbook
  | workflowSummary
  deriving DecidableEq

namespace RecordKind

/-- The records of a kind. -/
def Record :
    RecordKind →
    Type
  | .workflowStatus => WorkflowStatus
  | .actionStatus => ActionStatus
  | .playbook => Playbook
  | .workflowSummary => WorkflowSummary

instance : (kind : RecordKind) → Wire kind.Record
  | .workflowStatus => inferInstanceAs (Wire WorkflowStatus)
  | .actionStatus => inferInstanceAs (Wire ActionStatus)
  | .playbook => inferInstanceAs (Wire Playbook)
  | .workflowSummary => inferInstanceAs (Wire WorkflowSummary)

/-- The grammar of a kind. -/
def grammar :
    RecordKind →
    Grammar
  | .workflowStatus => WorkflowStatus.grammar
  | .actionStatus => ActionStatus.grammar
  | .playbook => Playbook.grammar
  | .workflowSummary => WorkflowSummary.grammar

/-- What a record of a kind contains. -/
def Contents :
    (kind : RecordKind) →
    Json.Members →
    kind.Record →
    Prop
  | .workflowStatus => WorkflowStatus.Contents
  | .actionStatus => ActionStatus.Contents
  | .playbook => Playbook.Contents
  | .workflowSummary => WorkflowSummary.Contents

/-- A value of which a record tells the contents. -/
def Holds
    (kind : RecordKind) :
    Json →
    kind.Record →
    Prop :=
  HoldsRecord kind.grammar.names kind.Contents

theorem exists_ofJson_iff
    (kind : RecordKind)
    (value : Json) :
    (∃ record : kind.Record, Wire.ofJson value = .ok record) ↔
      kind.grammar.Accepts value := by
  cases kind with
  | workflowStatus =>
      exact WorkflowStatus.consists.exists_ofJson_iff WorkflowStatus.obeys
  | actionStatus =>
      exact ActionStatus.consists.exists_ofJson_iff ActionStatus.obeys
  | playbook =>
      exact Playbook.consists.exists_ofJson_iff Playbook.obeys
  | workflowSummary =>
      exact WorkflowSummary.consists.exists_ofJson_iff WorkflowSummary.obeys

theorem holds_of_ofJson
    (kind : RecordKind)
    (value : Json)
    (record : kind.Record)
    (isRead : Wire.ofJson value = .ok record) :
    kind.Holds value record := by
  cases kind with
  | workflowStatus =>
      exact WorkflowStatus.holdsRecord_of_ofJson value record isRead
  | actionStatus =>
      exact ActionStatus.holdsRecord_of_ofJson value record isRead
  | playbook =>
      exact Playbook.holdsRecord_of_ofJson value record isRead
  | workflowSummary =>
      exact WorkflowSummary.holdsRecord_of_ofJson value record isRead

/--
A record is read from exactly the values of its grammar, and a list of records
from exactly the arrays of such values. What is read has the contents of the
value.
-/
theorem reads_grammar
    (kind : RecordKind)
    (value : Json) :
    ((∃ record : kind.Record, Wire.ofJson value = .ok record) ↔
      kind.grammar.Accepts value) ∧
    (∀ record : kind.Record, Wire.ofJson value = .ok record →
      kind.Holds value record) ∧
    ((∃ records : List kind.Record, Wire.ofJson value = .ok records) ↔
      value.IsArrayOf kind.grammar.Accepts) ∧
    (∀ records : List kind.Record,
      Wire.ofJson value = .ok records → HoldsList kind.Holds value records) :=
  ⟨kind.exists_ofJson_iff value, kind.holds_of_ofJson value,
    exists_ofJson_list_iff kind.exists_ofJson_iff,
    holdsList_of_ofJson kind.holds_of_ofJson value⟩

end RecordKind

end WorkflowQueue
