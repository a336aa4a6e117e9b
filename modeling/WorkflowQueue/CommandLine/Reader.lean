import WorkflowQueue.CommandLine.Level
import WorkflowQueue.Number.Decimal

namespace WorkflowQueue.CommandLine

/-!
# Reading a command line

A command line is read word by word, first at the level of the program and, once
a word names a command, at the level of that command. The value of an option is
judged late: when the next option or operand of its level is met, or at the end
of the level. Until then a word that cannot be understood at all is found first.
-/

/-- Why a command line asks for no command. -/
inductive Refusal where
  | help (topic : Topic)
  | version
  | unknownArgument
  | unknownCommand
  | missingOperand
  | missingValue
  | badValue
  | conflict
  | needlessValue
  | missingCommand
  | nothingGiven
  deriving DecidableEq

/-- How a word is written. -/
inductive Word where
  | separator
  | long (name : List Char) (value : Option (List Char))
  | letters (letters : List Char)
  | plain
  deriving DecidableEq

namespace Word

/--
What stands before the first equals sign and, if there is one, what follows it.
-/
def splitAtEquals :
    List Char →
    List Char × Option (List Char)
  | [] => ([], none)
  | '=' :: value => ([], some value)
  | c :: rest =>
      let (name, value) := splitAtEquals rest
      (c :: name, value)

/-- How a text is written. A lone dash and the empty text are plain. -/
def ofChars :
    List Char →
    Word
  | ['-', '-'] => .separator
  | '-' :: '-' :: rest =>
      let (name, value) := splitAtEquals rest
      .long name value
  | '-' :: letter :: rest => .letters (letter :: rest)
  | _ => .plain

end Word

/-- An option whose value is not judged yet, or still to come. -/
structure Pending where
  setting : Setting
  value : Option String
  deriving DecidableEq

/-- What the words of one level have given so far. -/
structure Given where
  apiUrl : Option String
  token : Option String
  page : Option UInt32
  all : Bool
  operands : List String
  pending : Option Pending
  deriving DecidableEq

namespace Given

/-- A level without words. -/
def nothing : Given where
  apiUrl := none
  token := none
  page := none
  all := false
  operands := []
  pending := none

/-- The number of a page as it is written. Zero may carry a minus sign. -/
def page?
    (written : List Char) :
    Option UInt32 :=
  let number? :=
    match written with
    | '-' :: digits => (Decimal.value? digits).filter (· = 0)
    | _ => Decimal.unsigned? Decimal.limit32 written
  number?.map UInt32.ofNat

/-- Take in the value of an option that was not given before. -/
def record
    (given : Given)
    (setting : Setting)
    (value : String) :
    Except Refusal Given :=
  match setting with
  | .apiUrl =>
      if given.apiUrl.isSome then .error .conflict
      else .ok { given with apiUrl := some value }
  | .token =>
      if given.token.isSome then .error .conflict
      else .ok { given with token := some value }
  | .page =>
      if given.page.isSome then .error .conflict
      else
        match page? value.toList with
        | none => .error .badValue
        | some page => .ok { given with page := some page }

/-- Judge the option that is pending. -/
def settle
    (given : Given) :
    Except Refusal Given :=
  match given.pending with
  | none => .ok given
  | some { value := none, .. } => .error .missingValue
  | some { setting, value := some value } =>
      { given with pending := none }.record setting value

/--
Whether the next word is the value of an option, unless it is written as an
option.
-/
def isAwaiting
    (given : Given) :
    Bool :=
  given.pending.any fun pending => pending.value.isNone

/-- An option whose value follows. -/
def await
    (given : Given)
    (setting : Setting) :
    Except Refusal Given := do
  let settled ← given.settle
  return { settled with pending := some { setting := setting, value := none } }

/-- The value of the option that is pending. -/
def supply
    (given : Given)
    (value : String) :
    Given :=
  { given with pending := given.pending.map fun pending =>
    { pending with value := some value } }

/-- An option with its value attached. -/
def attach
    (given : Given)
    (setting : Setting)
    (value : List Char) :
    Except Refusal Given := do
  let settled ← given.settle
  settled.record setting (String.ofList value)

/-- An option without a value. -/
def raise
    (given : Given)
    (level : Level)
    (flag : Flag) :
    Except Refusal Given := do
  let settled ← given.settle
  match flag with
  | .help => .error (.help (.level level))
  | .version => .error .version
  | .all =>
      if settled.all then .error .conflict
      else return { settled with all := true }

/-- An option by its long name. -/
def readLong
    (given : Given)
    (level : Level)
    (name : List Char)
    (value : Option (List Char)) :
    Except Refusal Given :=
  match level.named? name, value with
  | none, _ => .error .unknownArgument
  | some (.flag _), some _ => .error .needlessValue
  | some (.flag flag), none => given.raise level flag
  | some (.setting setting), some value => given.attach setting value
  | some (.setting setting), none => given.await setting

/--
Options by their letters. The first one with a value takes all that follows it.
-/
def readLetters
    (level : Level) :
    List Char →
    Given →
    Except Refusal Given
  | [], given => .ok given
  | letter :: rest, given =>
      match level.lettered? letter with
      | none => .error .unknownArgument
      | some (.flag flag) =>
          match given.raise level flag with
          | .error refusal => .error refusal
          | .ok given => readLetters level rest given
      | some (.setting setting) =>
          match rest with
          | [] => given.await setting
          | '=' :: value => given.attach setting value
          | value => given.attach setting value

/-- Why a level has no place for an operand. -/
def surplus
    (level : Level)
    (separated : Bool)
    (word : String) :
    Refusal :=
  match level with
  | .program =>
      if separated && (Topic.ofWord? word).isSome then .unknownArgument
      else .unknownCommand
  | .command _ => .unknownArgument

/-- An operand. -/
def place
    (given : Given)
    (level : Level)
    (separated : Bool)
    (word : String) :
    Except Refusal Given :=
  if given.operands.length < level.places.length then do
    let settled ← given.settle
    return { settled with operands := settled.operands ++ [word] }
  else .error (surplus level separated word)

/-- The words after the separator: operands, however they are written. -/
def placeAll
    (level : Level) :
    List String →
    Given →
    Except Refusal Given
  | [], given => .ok given
  | word :: rest, given =>
      match given.place level true word with
      | .error refusal => .error refusal
      | .ok given => placeAll level rest given

/-- A word that is no separator. -/
def readWord
    (given : Given)
    (level : Level)
    (word : String) :
    Except Refusal Given :=
  match Word.ofChars word.toList with
  | .long name value => given.readLong level name value
  | .letters letters => readLetters level letters given
  | _ =>
      if given.isAwaiting then .ok (given.supply word)
      else given.place level false word

end Given

/-! ## Levels -/

/-- What a word stands for if it is at the place of a command's name. -/
def topicAt
    (level : Level)
    (given : Given)
    (word : String) :
    Option Topic :=
  match level with
  | .program => if given.isAwaiting then none else Topic.ofWord? word
  | .command _ => none

/-- What the words after the request for help ask about. -/
def helpOn :
    List String →
    Refusal
  | [] => .help (.level .program)
  | [word] =>
      match Topic.ofWord? word with
      | some topic => .help topic
      | none => .unknownCommand
  | _ => .unknownCommand

/-- A command that was chosen, with the words that follow its name. -/
structure Choice where
  name : CommandName
  rest : List String
  deriving DecidableEq

/-- The words of one level, up to the name of a command if there is one. -/
def readLevel
    (level : Level) :
    List String →
    Given →
    Except Refusal (Given × Option Choice)
  | [], given => .ok (given, none)
  | word :: rest, given =>
      match topicAt level given word with
      | some (.level (.command name)) =>
          .ok (given, some { name := name, rest := rest })
      | some _ => .error (helpOn rest)
      | none =>
          if Word.ofChars word.toList = .separator then
            (given.placeAll level rest).map fun given => (given, none)
          else
            match given.readWord level word with
            | .error refusal => .error refusal
            | .ok given => readLevel level rest given

/-- The command that its own words make. -/
def commandOf
    (name : CommandName)
    (given : Given) :
    Except Refusal Command :=
  match name, given.operands with
  | .playbooks, _ => .ok .playbooks
  | .enqueue, [workflowId] => .ok (.enqueue workflowId)
  | .status, [executionId] => .ok (.status executionId)
  | .list, _ =>
      if given.page.isSome && given.all then .error .conflict
      else .ok (.list (given.page.getD 1) given.all)
  | .action, [executionId, token] => .ok (.action executionId token)
  | .watch, [executionId] => .ok (.watch executionId)
  | _, _ => .error .missingOperand

/-- The words of a command, with the command that they make. -/
def readCommand
    (choice : Choice) :
    Except Refusal (Given × Command) := do
  let (given, _) ← readLevel (.command choice.name) choice.rest Given.nothing
  let settled ← given.settle
  return (settled, ← commandOf choice.name settled)

/-- Why words that choose no command are not enough. -/
def withoutCommand
    (given : Given) :
    Refusal :=
  if given.apiUrl.isNone && given.token.isNone then
    .nothingGiven else .missingCommand

/--
What the words of a command line ask for. Options of the command overrule the
same options before its name.
-/
def Arguments.read
    (words : List String) :
    Except Refusal Arguments := do
  let (given, choice) ← readLevel .program words Given.nothing
  match choice with
  | none => .error (withoutCommand (← given.settle))
  | some choice =>
      let (inner, command) ← readCommand choice
      let outer ← given.settle
      return {
        apiUrl := inner.apiUrl.or outer.apiUrl
        token := inner.token.or outer.token
        command := command
      }

end WorkflowQueue.CommandLine
