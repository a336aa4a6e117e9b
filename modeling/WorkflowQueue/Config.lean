import WorkflowQueue.Backoff
import WorkflowQueue.Number.Decimal
import WorkflowQueue.Text.Blank
import WorkflowQueue.Text.Quoted

namespace WorkflowQueue

/-!
# Configuration

Where the queue is, how to authenticate, and how long to wait. Settings come
from named variables; a variable that is not set takes its default.
-/

/-- The settings of a client. -/
structure Config where
  apiUrl : String
  apiToken : Option String
  requestTimeout : Duration
  backoff : Backoff
  deriving DecidableEq

namespace Config

/-- The queue that is used when none is named. -/
def defaultApiUrl : String := "http://localhost:5000/api"

/-- How long a request may take, in seconds, when nothing else is asked for. -/
def defaultTimeoutSeconds : Nat := 30

/-- The settings when no variable is set. -/
def standard : Config where
  apiUrl := defaultApiUrl
  apiToken := none
  requestTimeout := Duration.ofSeconds defaultTimeoutSeconds
  backoff := Backoff.standard

/-- The variable that names the queue. -/
def apiUrlKey : String := "WFQUEUE_API_URL"

/-- The variable that holds the token. -/
def apiTokenKey : String := "WFQUEUE_API_TOKEN"

/-- The variable that limits a request, in seconds. -/
def requestTimeoutKey : String := "WFQUEUE_REQUEST_TIMEOUT_SECS"

/-- The variable that holds the first wait, in seconds. -/
def pollIntervalKey : String := "WFQUEUE_POLL_INTERVAL_SECS"

/-- The variable that limits the waits, in seconds. -/
def pollMaxIntervalKey : String := "WFQUEUE_POLL_MAX_INTERVAL_SECS"

/-- The variables that settings come from. -/
def keys : List String :=
  [apiUrlKey, apiTokenKey, requestTimeoutKey, pollIntervalKey,
    pollMaxIntervalKey]

/-- A variable that should hold a number of seconds and does not. -/
structure InvalidNumber where
  key : String
  value : String
  deriving DecidableEq

/-- The wording of a bad number. -/
def InvalidNumber.message
    (error : InvalidNumber) :
    String :=
  error.key ++ " must be a positive integer, got " ++ Text.quoted error.value

/-- A positive number of seconds, with white space allowed around it. -/
def seconds?
    (written : String) :
    Option Nat :=
  (Decimal.unsigned? Decimal.limit64 (Text.trim written.toList)).filter (0 < ·)

/-- The seconds that a variable asks for. -/
def readSeconds
    (lookup : String → Option String)
    (key : String)
    (default : Nat) :
    Except InvalidNumber Nat :=
  match lookup key with
  | none => .ok default
  | some written =>
      match seconds? written with
      | some seconds => .ok seconds
      | none => .error { key := key, value := written }

/--
The settings that variables ask for. A blank token counts as not set, and the
limit of the waits is raised to the first wait.
-/
def ofLookup
    (lookup : String → Option String) :
    Except InvalidNumber Config := do
  let timeout ← readSeconds lookup requestTimeoutKey defaultTimeoutSeconds
  let initial ← readSeconds lookup pollIntervalKey
    Backoff.standard.initialDelay.seconds
  let limit ← readSeconds lookup pollMaxIntervalKey
    Backoff.standard.maxDelay.seconds
  return {
    apiUrl := (lookup apiUrlKey).getD defaultApiUrl
    apiToken :=
      (lookup apiTokenKey).filter fun token => !Text.isAllBlank token.toList
    requestTimeout := Duration.ofSeconds timeout
    backoff := {
      initialDelay := Duration.ofSeconds initial
      maxDelay := Duration.ofSeconds (max limit initial)
      multiplier := Backoff.standard.multiplier
    }
  }

end Config

end WorkflowQueue
