import WorkflowQueue.Record.Wire

namespace WorkflowQueue

/-!
# Playbooks

Named collections of workflows that can be queued.
-/

/-- A workflow as a playbook lists it. -/
structure WorkflowSummary where
  id : String
  name : String
  deriving DecidableEq

namespace WorkflowSummary

/-- The workflow's identity. -/
def idField : Field String := .required "id"

/-- The workflow's name. -/
def nameField : Field String := .required "name"

/-- How the record is read. -/
def form : RecordForm WorkflowSummary where
  name := "WorkflowSummary"
  checks := [idField.check, nameField.check]
  build missing assigned := do
    return {
      id := ← idField.get missing assigned
      name := ← nameField.get missing assigned
    }

end WorkflowSummary

instance : Wire WorkflowSummary where
  ofJson := WorkflowSummary.form.read
  toJson workflow := .object [
    ("id", .string workflow.id),
    ("name", .string workflow.name)
  ]

/-- A named collection of workflows. -/
structure Playbook where
  id : String
  name : String
  workflows : List WorkflowSummary
  deriving DecidableEq

namespace Playbook

/-- The playbook's identity. -/
def idField : Field String := .required "id"

/-- The playbook's name. -/
def nameField : Field String := .required "name"

/-- The workflows of the playbook. -/
def workflowsField : Field (List WorkflowSummary) := .list "workflows"

/-- How the record is read. -/
def form : RecordForm Playbook where
  name := "Playbook"
  checks := [idField.check, nameField.check, workflowsField.check]
  build missing assigned := do
    return {
      id := ← idField.get missing assigned
      name := ← nameField.get missing assigned
      workflows := ← workflowsField.get missing assigned
    }

/-- The first workflow of a name. -/
def workflowNamed?
    (playbook : Playbook)
    (name : String) :
    Option WorkflowSummary :=
  playbook.workflows.find? fun workflow => workflow.name == name

end Playbook

instance : Wire Playbook where
  ofJson := Playbook.form.read
  toJson playbook := .object [
    ("id", .string playbook.id),
    ("name", .string playbook.name),
    ("workflows", Wire.toJson playbook.workflows)
  ]

end WorkflowQueue
