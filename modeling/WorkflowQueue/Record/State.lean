import WorkflowQueue.Record.Wire

namespace WorkflowQueue

/-!
# States and status changes

Executions and the actions inside them report their state as a token. Known
tokens have a state of their own; any other token is kept as it was sent, so a
newer server never breaks a reader. A requested change of state is a token as
well, and every token may be requested.
-/

/-- The state of a workflow execution. -/
inductive ExecutionState where
  | pending
  | running
  | paused
  | awaitingData
  | completed
  | aborted
  | other (token : String)
  deriving DecidableEq, Inhabited

namespace ExecutionState

/-- The state that a token stands for. -/
def ofToken
    (token : String) :
    ExecutionState :=
  if token = "pending" then .pending
  else if token = "running" then .running
  else if token = "paused" then .paused
  else if token = "awaiting_data" then .awaitingData
  else if token = "completed" then .completed
  else if token = "aborted" then .aborted
  else .other token

/-- The token of a state. -/
def token :
    ExecutionState →
    String
  | .pending => "pending"
  | .running => "running"
  | .paused => "paused"
  | .awaitingData => "awaiting_data"
  | .completed => "completed"
  | .aborted => "aborted"
  | .other token => token

/-- Completed and aborted executions never change state again. -/
def isTerminal :
    ExecutionState →
    Bool
  | .completed => true
  | .aborted => true
  | _ => false

end ExecutionState

/-- The state of one action inside an execution. -/
inductive ActionState where
  | executing
  | awaitingData
  | success
  | failure
  | aborted
  | other (token : String)
  deriving DecidableEq, Inhabited

namespace ActionState

/-- The state that a token stands for. -/
def ofToken
    (token : String) :
    ActionState :=
  if token = "executing" then .executing
  else if token = "awaiting_data" then .awaitingData
  else if token = "success" then .success
  else if token = "failure" then .failure
  else if token = "aborted" then .aborted
  else .other token

/-- The token of a state. -/
def token :
    ActionState →
    String
  | .executing => "executing"
  | .awaitingData => "awaiting_data"
  | .success => "success"
  | .failure => "failure"
  | .aborted => "aborted"
  | .other token => token

end ActionState

/--
A requested change of state. The server decides which tokens it understands.
-/
structure StatusAction where
  token : String
  deriving DecidableEq, Inhabited

namespace StatusAction

/-- The request to pause. -/
def pause : StatusAction where
  token := "pause"

/-- The request to go on. -/
def resume : StatusAction where
  token := "resume"

/-- The request to give up. -/
def abort : StatusAction where
  token := "abort"

end StatusAction

instance : Wire ExecutionState where
  ofJson value := (readText value).map ExecutionState.ofToken
  toJson state := .string state.token

instance : Wire ActionState where
  ofJson value := (readText value).map ActionState.ofToken
  toJson state := .string state.token

instance : Wire StatusAction where
  ofJson value := (readText value).map StatusAction.mk
  toJson action := .string action.token

end WorkflowQueue
