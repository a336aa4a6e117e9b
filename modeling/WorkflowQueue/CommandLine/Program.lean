import WorkflowQueue.CommandLine.Failure
import WorkflowQueue.CommandLine.Help
import WorkflowQueue.CommandLine.Reader
import WorkflowQueue.Http.Endpoint
import WorkflowQueue.Variables.File

namespace WorkflowQueue.CommandLine

/-!
# The program

From a command line and its surroundings to what the program writes and how it
ends. Arguments are read first, then the settings, then the queue's address;
only then is a command carried out. The output is written at the very end, so a
program that fails has written none.
-/

/--
What the program finds around it: variables, a file of more of them, the network
with the responses that it will bring, and the request at which the user
interrupts a watch.
-/
structure Surroundings where
  environment : Variables
  variableFile : Option String
  network : Http.Network
  responses : List Http.Response
  interruptOnRequest : Option Nat

/--
How the program ends: its exit code, what it has written, and what it has sent.
Of what goes to standard error, the lines of the log are left out. What is sent
are the messages of the client itself; those that a redirect adds to one of them
are in its `Http.Message.trail`.
-/
structure Outcome where
  exitCode : Nat
  output : String
  errors : String
  sent : List (Dispatch Http.Message)

namespace Outcome

/-- The program did what it was asked for. -/
def success
    (output : String)
    (sent : List (Dispatch Http.Message)) :
    Outcome where
  exitCode := 0
  output := output
  errors := ""
  sent := sent

/-- The program could not do what it was asked for. -/
def failure
    (failure : Failure)
    (sent : List (Dispatch Http.Message)) :
    Outcome where
  exitCode := 1
  output := ""
  errors := failure.text
  sent := sent

end Outcome

/-! ## Refusals -/

/-- What is wrong with a command line. -/
def Refusal.complaint :
    Refusal →
    String
  | .help topic => topic.text
  | .version => versionText
  | .unknownArgument => "error: unexpected argument found\n"
  | .unknownCommand => "error: unrecognized subcommand\n"
  | .missingOperand => "error: a required argument was not provided\n"
  | .missingValue =>
      "error: a value is required for an option but none was supplied\n"
  | .badValue => "error: invalid value for an option\n"
  | .conflict =>
      "error: an argument cannot be used with another one, or more than once\n"
  | .needlessValue => "error: unexpected value for an option that takes none\n"
  | .missingCommand => "error: a subcommand is required but none was provided\n"
  | .nothingGiven => (Topic.level .program).text

/-- How the program ends when a command line asks for no command. -/
def Refusal.outcome
    (refusal : Refusal) :
    Outcome :=
  match refusal with
  | .help _ | .version => Outcome.success refusal.complaint []
  | _ =>
      { exitCode := 2, output := "", errors := refusal.complaint, sent := [] }

/-! ## Settings -/

/-- The variables of the program with those of the file. -/
def Surroundings.allVariables
    (surroundings : Surroundings) :
    Variables :=
  match surroundings.variableFile with
  | none => surroundings.environment
  | some text => surroundings.environment.defineFile text

/-- Settings with what the arguments overrule. -/
def Arguments.overrule
    (arguments : Arguments)
    (config : Config) :
    Config :=
  { config with
    apiUrl := arguments.apiUrl.getD config.apiUrl
    apiToken := arguments.token.or config.apiToken }

/-- The client that the settings and the arguments ask for. -/
def Surroundings.client
    (surroundings : Surroundings)
    (arguments : Arguments) :
    Except Failure (Client Http.Message Http.Response) := do
  let config ← (Config.ofLookup surroundings.allVariables.value?).mapError
    .badSettings
  (Http.clientOfConfig surroundings.network
    (arguments.overrule config)).mapError .noClient

/-! ## Commands -/

/-- A record as it is printed. -/
def printed
    [Wire α]
    (record : α) :
    String :=
  (Wire.toJson record).pretty ++ "\n"

/--
What a command does with a client: its run, which ends in what is printed.
-/
def Command.run
    (command : Command)
    (client : Client Http.Message Http.Response)
    (interrupt : Watch.Cancellation)
    (session : Session Http.Response) :
    Except Failure
      (Run Http.Message Http.Response (Except QueueError String)) :=
  match command with
  | .playbooks => .ok ((client.playbooks session).map (Except.map printed))
  | .enqueue workflowId =>
      .ok ((client.enqueue workflowId session).map (Except.map printed))
  | .status executionId =>
      .ok ((client.status executionId session).map (Except.map printed))
  | .list _ true => .ok ((client.allStatuses session).map (Except.map printed))
  | .list page false =>
      match PageNumber.ofWord? page with
      | none => .error .noPage
      | some page =>
          .ok ((client.statusPage page session).map (Except.map printed))
  | .action executionId token =>
      .ok ((client.act executionId { token := token } session).map
        (Except.map fun _ => ""))
  | .watch executionId =>
      .ok <| (client.watch executionId interrupt session).map fun outcome =>
        match outcome with
        | none => .ok ""
        | some result => result.map printed

/-- How the program ends after a command's run. -/
def Outcome.ofRun
    (run : Run Http.Message Http.Response (Except QueueError String)) :
    Outcome :=
  match run.result with
  | .error error => Outcome.failure (.refused error) run.sent
  | .ok output => Outcome.success output run.sent

/-- Carry out what the arguments ask for. -/
def Arguments.perform
    (arguments : Arguments)
    (surroundings : Surroundings) :
    Outcome :=
  let session := { replies := surroundings.responses, now := 0 }
  let interrupt :=
    { Watch.Cancellation.never with onRequest :=
      surroundings.interruptOnRequest }
  match surroundings.client arguments with
  | .error failure => Outcome.failure failure []
  | .ok client =>
      match arguments.command.run client interrupt session with
      | .error failure => Outcome.failure failure []
      | .ok run => Outcome.ofRun run

/-- The program: words in, what it writes and how it ends out. -/
def program
    (surroundings : Surroundings)
    (words : List String) :
    Outcome :=
  match Arguments.read words with
  | .error refusal => refusal.outcome
  | .ok arguments => arguments.perform surroundings

end WorkflowQueue.CommandLine
