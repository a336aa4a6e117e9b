import WorkflowQueue.CommandLine.Arguments

namespace WorkflowQueue.CommandLine

/-!
# Levels of a command line

A command line has two levels: what stands before the name of the command, and
what stands after it. Each level has options of its own, and a command has
places for operands.
-/

/-- An option that takes a value. -/
inductive Setting where
  | apiUrl
  | token
  | page
  deriving DecidableEq

/-- An option that stands for itself. -/
inductive Flag where
  | all
  | help
  | version
  deriving DecidableEq

/-- An option of either kind. -/
inductive Switch where
  | setting (setting : Setting)
  | flag (flag : Flag)
  deriving DecidableEq

namespace Switch

/-- The long name of an option, without its dashes. -/
def long :
    Switch →
    String
  | .setting .apiUrl => "api-url"
  | .setting .token => "token"
  | .setting .page => "page"
  | .flag .all => "all"
  | .flag .help => "help"
  | .flag .version => "version"

/-- The letter of an option that has one. -/
def letter? :
    Switch →
    Option Char
  | .setting .apiUrl => none
  | .setting .token => none
  | .setting .page => some 'p'
  | .flag .all => some 'a'
  | .flag .help => some 'h'
  | .flag .version => some 'V'

end Switch

/--
The part of a command line before the name of the command, or the part after it.
-/
inductive Level where
  | program
  | command (name : CommandName)
  deriving DecidableEq

namespace Level

/-- The options of a level, in the order in which help lists them. -/
def switches :
    Level →
    List Switch
  | .program => [
      .setting .apiUrl, .setting .token, .flag .help, .flag .version
    ]
  | .command .list => [
      .setting .apiUrl, .setting .page, .flag .all, .setting .token, .flag .help
    ]
  | .command _ => [.setting .apiUrl, .setting .token, .flag .help]

/-- The option of a level with a long name. -/
def named?
    (level : Level)
    (name : List Char) :
    Option Switch :=
  level.switches.find? fun switch => switch.long.toList = name

/-- The option of a level with a letter. -/
def lettered?
    (level : Level)
    (letter : Char) :
    Option Switch :=
  level.switches.find? fun switch => switch.letter? = some letter

/--
The places for operands at a level: what stands in each, and what it is for.
-/
def places :
    Level →
    List (String × String)
  | .program => []
  | .command .playbooks => []
  | .command .enqueue => [("WORKFLOW_ID", "Workflow ID to queue")]
  | .command .status => [("EXECUTION_ID", "Execution ID to query")]
  | .command .list => []
  | .command .action => [
      ("EXECUTION_ID", "Execution ID to act on"),
      ("ACTION", "Action token, passed to the server as-is")
    ]
  | .command .watch => [("EXECUTION_ID", "Execution ID to watch")]

end Level

/-- What help can be asked about. -/
inductive Topic where
  | level (level : Level)
  | help
  deriving DecidableEq

namespace Topic

/-- The word that asks for help instead of a command. -/
def helpWord : String := "help"

/-- What a word at the place of a command's name stands for. -/
def ofWord?
    (word : String) :
    Option Topic :=
  if word = helpWord then some .help
  else (CommandName.ofWord? word).map fun name => .level (.command name)

end Topic

end WorkflowQueue.CommandLine
