namespace WorkflowQueue.CommandLine

/-!
# Arguments

What a command line asks for: one command, and where the queue is and how to
authenticate if the settings are to be overruled.
-/

/-- The commands by name. -/
inductive CommandName where
  | playbooks
  | enqueue
  | status
  | list
  | action
  | watch
  deriving DecidableEq

namespace CommandName

/-- All commands, in the order in which help lists them. -/
def all : List CommandName :=
  [.playbooks, .enqueue, .status, .list, .action, .watch]

/-- The word that chooses a command. -/
def word :
    CommandName →
    String
  | .playbooks => "playbooks"
  | .enqueue => "enqueue"
  | .status => "status"
  | .list => "list"
  | .action => "action"
  | .watch => "watch"

/-- The command that a word chooses. -/
def ofWord?
    (word : String) :
    Option CommandName :=
  all.find? fun name => name.word = word

/-- Every command is chosen by its own word. -/
theorem ofWord?_word
    (name : CommandName) :
    ofWord? name.word = some name := by
  cases name <;> decide

end CommandName

/--
A command with its operands. A page number stands for its page only where not
all are listed.
-/
inductive Command where
  | playbooks
  | enqueue (workflowId : String)
  | status (executionId : String)
  | list (page : UInt32) (all : Bool)
  | action (executionId token : String)
  | watch (executionId : String)
  deriving DecidableEq

namespace Command

/-- The name of a command. -/
def name :
    Command →
    CommandName
  | .playbooks => .playbooks
  | .enqueue _ => .enqueue
  | .status _ => .status
  | .list _ _ => .list
  | .action _ _ => .action
  | .watch _ => .watch

/-- The operands of a command, in the order in which they are written. -/
def operands :
    Command →
    List String
  | .playbooks => []
  | .enqueue workflowId => [workflowId]
  | .status executionId => [executionId]
  | .list _ _ => []
  | .action executionId token => [executionId, token]
  | .watch executionId => [executionId]

end Command

/--
A command, with the queue's address and the token where they overrule the
settings.
-/
structure Arguments where
  apiUrl : Option String
  token : Option String
  command : Command
  deriving DecidableEq

end WorkflowQueue.CommandLine
