import WorkflowQueue.CommandLine.Level

namespace WorkflowQueue.CommandLine

/-!
# Help

The text that explains the program or one of its commands: what it is for, how
it is written, and one aligned row for every command, operand and option.
-/

/-- The name of the program. -/
def programName : String := "wfqueue"

/-- The name of the program with its version. -/
def versionText : String := programName ++ " 0.1.0\n"

/-- What a command is for. -/
def CommandName.about :
    CommandName →
    String
  | .playbooks => "List playbooks and the workflows they define"
  | .enqueue => "Queue a workflow for execution"
  | .status => "Show full detail for one execution"
  | .list => "List execution statuses"
  | .action => "Request a status change (pause, resume, abort, ...)"
  | .watch => "Re-poll an execution until it completes or is aborted"

/-- What an option is for. -/
def Switch.about :
    Switch →
    String
  | .setting .apiUrl => "API root (overrides WFQUEUE_API_URL)"
  | .setting .token => "Bearer token (overrides WFQUEUE_API_TOKEN)"
  | .setting .page => "Page to fetch (1-based) [default: 1]"
  | .flag .all => "Fetch every page"
  | .flag .help => "Print help"
  | .flag .version => "Print version"

/-- What is shown in the place of a text that the user supplies. -/
def placeholder
    (name : String) :
    String :=
  "<" ++ name ++ ">"

/-- What is shown in the place of an option's value. -/
def Setting.placeholder :
    Setting →
    String
  | .apiUrl => CommandLine.placeholder "API_URL"
  | .token => CommandLine.placeholder "TOKEN"
  | .page => CommandLine.placeholder "PAGE"

/-- How an option is written, with room for the letter that it may lack. -/
def Switch.usage
    (switch : Switch) :
    String :=
  let letter :=
    match switch.letter? with
    | some letter => String.ofList ['-', letter, ',', ' ']
    | none => "    "
  let value :=
    match switch with
    | .setting valued => " " ++ valued.placeholder
    | .flag _ => ""
  letter ++ "--" ++ switch.long ++ value

/-- A titled list of rows: what is written, and what it is for. -/
structure Table where
  title : String
  rows : List (String × String)

namespace Table

/-- The width of the longest left half of a row. -/
def width
    (table : Table) :
    Nat :=
  table.rows.foldl (fun widest row => max widest row.1.length) 0

/-- One row, its right half aligned with those of the other rows. -/
def rowText
    (width : Nat)
    (row : String × String) :
    String :=
  let padding := String.ofList (List.replicate (width - row.1.length) ' ')
  "  " ++ row.1 ++ padding ++ "  " ++ row.2 ++ "\n"

/--
The text of a table after an empty line. A table without rows is left out.
-/
def text
    (table : Table) :
    String :=
  if table.rows.isEmpty then ""
  else
    "\n" ++ table.title ++ ":\n" ++
      String.join (table.rows.map (rowText table.width))

end Table

namespace Topic

/-- What the subject of help is for. -/
def about :
    Topic →
    String
  | .level .program => "Queue workflows and inspect their executions"
  | .level (.command name) => name.about
  | .help => "Print this message or the help of the given subcommand(s)"

/-- How the subject of help is written. -/
def usage :
    Topic →
    String
  | .level .program => "[OPTIONS] <COMMAND>"
  | .level (.command name) =>
      " ".intercalate <|
        name.word :: "[OPTIONS]" ::
          (Level.command name).places.map fun place => placeholder place.1
  | .help => helpWord ++ " [COMMAND]..."

/-- The commands that the subject of help has. -/
def commands :
    Topic →
    List (String × String)
  | .level .program =>
      CommandName.all.map (fun name => (name.word, name.about)) ++
        [(helpWord, Topic.help.about)]
  | _ => []

/-- The operands that the subject of help has. -/
def operands :
    Topic →
    List (String × String)
  | .level here => here.places.map fun place => (placeholder place.1, place.2)
  | .help => [("[COMMAND]...", "Print help for the subcommand(s)")]

/-- The options that the subject of help has. -/
def options :
    Topic →
    List (String × String)
  | .level here => here.switches.map fun switch => (switch.usage, switch.about)
  | .help => []

/-- The text of help on a subject. -/
def text
    (topic : Topic) :
    String :=
  let tables : List Table := [
    { title := "Commands", rows := topic.commands },
    { title := "Arguments", rows := topic.operands },
    { title := "Options", rows := topic.options }
  ]
  topic.about ++ "\n\nUsage: " ++ programName ++ " " ++ topic.usage ++ "\n" ++
    String.join (tables.map Table.text)

end Topic

end WorkflowQueue.CommandLine
