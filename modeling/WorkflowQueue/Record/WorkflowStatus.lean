import WorkflowQueue.Record.State

namespace WorkflowQueue

/-!
# Statuses of executions and of their actions

Snapshots of what the server knows about one execution of a workflow. The
records of single actions are present only in detailed answers.
-/

/-- The status of one action executed within a workflow. -/
structure ActionStatus where
  executionId : String
  actionId : String
  name : String
  appName : String
  actionName : String
  status : ActionState
  arguments : Option Json
  result : Option Json
  startedAt : Option Timestamp
  completedAt : Option Timestamp
  deriving BEq

namespace ActionStatus

/-- The execution of the action. -/
def executionIdField : Field String := .required "execution_id"

/-- The action that was executed. -/
def actionIdField : Field String := .required "action_id"

/-- The action's own name. -/
def nameField : Field String := .required "name"

/-- The application that offers the action. -/
def appNameField : Field String := .required "app_name"

/-- The action's name within its application. -/
def actionNameField : Field String := .required "action_name"

/-- The state of the action. -/
def statusField : Field ActionState := .required "status"

/-- What the action was given. -/
def argumentsField : Field (Option Json) := .optional "arguments"

/-- What the action gave back. -/
def resultField : Field (Option Json) := .optional "result"

/-- When the action started. -/
def startedAtField : Field (Option Timestamp) := .optional "started_at"

/-- When the action ended. -/
def completedAtField : Field (Option Timestamp) := .optional "completed_at"

/-- How the record is read. -/
def form : RecordForm ActionStatus where
  name := "ActionStatus"
  checks := [
    executionIdField.check,
    actionIdField.check,
    nameField.check,
    appNameField.check,
    actionNameField.check,
    statusField.check,
    argumentsField.check,
    resultField.check,
    startedAtField.check,
    completedAtField.check
  ]
  build missing assigned := do
    return {
      executionId := ← executionIdField.get missing assigned
      actionId := ← actionIdField.get missing assigned
      name := ← nameField.get missing assigned
      appName := ← appNameField.get missing assigned
      actionName := ← actionNameField.get missing assigned
      status := ← statusField.get missing assigned
      arguments := ← argumentsField.get missing assigned
      result := ← resultField.get missing assigned
      startedAt := ← startedAtField.get missing assigned
      completedAt := ← completedAtField.get missing assigned
    }

end ActionStatus

instance : Wire ActionStatus where
  ofJson := ActionStatus.form.read
  toJson status := .object [
    ("execution_id", .string status.executionId),
    ("action_id", .string status.actionId),
    ("name", .string status.name),
    ("app_name", .string status.appName),
    ("action_name", .string status.actionName),
    ("status", Wire.toJson status.status),
    ("arguments", Wire.toJson status.arguments),
    ("result", Wire.toJson status.result),
    ("started_at", Wire.toJson status.startedAt),
    ("completed_at", Wire.toJson status.completedAt)
  ]

/-- The status of one execution of a workflow. -/
structure WorkflowStatus where
  executionId : String
  workflowId : Option String
  name : Option String
  status : ExecutionState
  startedAt : Option Timestamp
  completedAt : Option Timestamp
  user : Option String
  actionStatuses : List ActionStatus
  deriving BEq

namespace WorkflowStatus

/-- The execution. -/
def executionIdField : Field String := .required "execution_id"

/-- The workflow that is executed. -/
def workflowIdField : Field (Option String) := .optional "workflow_id"

/-- The workflow's name. -/
def nameField : Field (Option String) := .optional "name"

/-- The state of the execution. -/
def statusField : Field ExecutionState := .required "status"

/-- When the execution started. -/
def startedAtField : Field (Option Timestamp) := .optional "started_at"

/-- When the execution ended. -/
def completedAtField : Field (Option Timestamp) := .optional "completed_at"

/-- Who queued the execution. -/
def userField : Field (Option String) := .optional "user"

/-- The actions executed so far. -/
def actionStatusesField : Field (List ActionStatus) := .list "action_statuses"

/-- How the record is read. -/
def form : RecordForm WorkflowStatus where
  name := "WorkflowStatus"
  checks := [
    executionIdField.check,
    workflowIdField.check,
    nameField.check,
    statusField.check,
    startedAtField.check,
    completedAtField.check,
    userField.check,
    actionStatusesField.check
  ]
  build missing assigned := do
    return {
      executionId := ← executionIdField.get missing assigned
      workflowId := ← workflowIdField.get missing assigned
      name := ← nameField.get missing assigned
      status := ← statusField.get missing assigned
      startedAt := ← startedAtField.get missing assigned
      completedAt := ← completedAtField.get missing assigned
      user := ← userField.get missing assigned
      actionStatuses := ← actionStatusesField.get missing assigned
    }

end WorkflowStatus

instance : Wire WorkflowStatus where
  ofJson := WorkflowStatus.form.read
  toJson status := .object [
    ("execution_id", .string status.executionId),
    ("workflow_id", Wire.toJson status.workflowId),
    ("name", Wire.toJson status.name),
    ("status", Wire.toJson status.status),
    ("started_at", Wire.toJson status.startedAt),
    ("completed_at", Wire.toJson status.completedAt),
    ("user", Wire.toJson status.user),
    ("action_statuses", Wire.toJson status.actionStatuses)
  ]

end WorkflowQueue
