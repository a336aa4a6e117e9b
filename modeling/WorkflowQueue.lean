import WorkflowQueue.Record.WorkflowStatus
import WorkflowQueue.Record.Playbook
import WorkflowQueue.Record.Envelope
import WorkflowQueue.Page
import WorkflowQueue.Config
import WorkflowQueue.Request
import WorkflowQueue.Text.Split
import WorkflowQueue.Client.Basic
import WorkflowQueue.Client.Scripted
import WorkflowQueue.Url.Percent
import WorkflowQueue.Url.Address
import WorkflowQueue.Url.Reader
import WorkflowQueue.Http.Endpoint
import WorkflowQueue.CommandLine.Program
import WorkflowQueue.CommandLine.Writer
import WorkflowQueue.Main
import WorkflowQueue.Proofs.Script
import WorkflowQueue.Proofs.Listing
import WorkflowQueue.Proofs.Waits
import WorkflowQueue.Proofs.Watching
import WorkflowQueue.Proofs.Cancelling
import WorkflowQueue.Proofs.Digits
import WorkflowQueue.Proofs.Instants
import WorkflowQueue.Proofs.Json.Readable
import WorkflowQueue.Proofs.Json.Tokens
import WorkflowQueue.Proofs.Json.Written
import WorkflowQueue.Proofs.Records.Reading
import WorkflowQueue.Proofs.Records.Slots
import WorkflowQueue.Proofs.Records.Grammar
import WorkflowQueue.Proofs.Records.Kinds
import WorkflowQueue.Proofs.Records.Reprinting
import WorkflowQueue.Proofs.Serving
import WorkflowQueue.Proofs.Url.Escapes
import WorkflowQueue.Proofs.Url.Routes
import WorkflowQueue.Proofs.Mirroring
import WorkflowQueue.Proofs.Stateless
import WorkflowQueue.Proofs.Text.Utf8
import WorkflowQueue.Proofs.Http.OverScript
import WorkflowQueue.Proofs.Json.Numbers
import WorkflowQueue.Proofs.Json.Spelling
import WorkflowQueue.Proofs.Json.Settling
import WorkflowQueue.Proofs.Json.Recognition
import WorkflowQueue.Proofs.Records.Carrying
import WorkflowQueue.Proofs.CommandLine.Outcomes
import WorkflowQueue.Proofs.Streaming
import WorkflowQueue.Proofs.Interrupting
import WorkflowQueue.Proofs.CommandLine.Indifference
import WorkflowQueue.Proofs.CommandLine.Rereading
import WorkflowQueue.Proofs.Variables
import WorkflowQueue.Proofs.CommandLine.Configuring
import WorkflowQueue.Proofs.Rounding
import WorkflowQueue.Proofs.Growth
import WorkflowQueue.Proofs.Pacing
import WorkflowQueue.Proofs.Text.Split
import WorkflowQueue.Proofs.Url.Authority
import WorkflowQueue.Proofs.Url.Slashes
import WorkflowQueue.Proofs.Url.Building
import WorkflowQueue.Proofs.Settings
import WorkflowQueue.Proofs.Records.Wrapping
import WorkflowQueue.Proofs.Http.Breaking
import WorkflowQueue.Proofs.Calendar
import WorkflowQueue.Proofs.Records.Comparing
import WorkflowQueue.Proofs.Json.Reordering
import WorkflowQueue.Proofs.Records.Nulls
import WorkflowQueue.Proofs.Records.Canonical
import WorkflowQueue.Proofs.Notation
import WorkflowQueue.Proofs.Exchanging
import WorkflowQueue.Proofs.Json.Texts
import WorkflowQueue.Proofs.Http.Bodies
import WorkflowQueue.Proofs.Sending
import WorkflowQueue.Proofs.Http.Authorizing
import WorkflowQueue.Proofs.Records.Tokens
import WorkflowQueue.Proofs.Deciding
import WorkflowQueue.Proofs.Counting
import WorkflowQueue.Proofs.Attempts
import WorkflowQueue.Proofs.Routing
