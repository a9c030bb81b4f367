import ChainProvision.Chain.Failure
import ChainProvision.Chain.Log
import ChainProvision.Chain.Request
import ChainProvision.Chain.Service
import ChainProvision.Console.Arguments
import ChainProvision.Console.Help
import ChainProvision.Console.Notice
import ChainProvision.Console.Session
import ChainProvision.Console.Watch
import ChainProvision.Deployment.Crew
import ChainProvision.Deployment.Deployer
import ChainProvision.Deployment.Failure
import ChainProvision.Deployment.Form
import ChainProvision.Deployment.Relay
import ChainProvision.Deployment.Route
import ChainProvision.Deployment.Settings
import ChainProvision.Deployment.State
import ChainProvision.Deployment.Status
import ChainProvision.Deployment.Vigil
import ChainProvision.Follow.Poller
import ChainProvision.Follow.Watcher
import ChainProvision.Http.Message
import ChainProvision.Identity.Hex
import ChainProvision.Identity.Id
import ChainProvision.Identity.Name
import ChainProvision.Identity.Wei
import ChainProvision.Json.Basic
import ChainProvision.Json.Fields
import ChainProvision.Json.Reader
import ChainProvision.Json.Token
import ChainProvision.Main
import ChainProvision.Number.Binary64
import ChainProvision.Number.Word
import ChainProvision.Operator.Endpoint
import ChainProvision.Operator.Failure
import ChainProvision.Operator.Phase
import ChainProvision.Operator.Report
import ChainProvision.Operator.Response
import ChainProvision.Records.Journal
import ChainProvision.Records.Resource
import ChainProvision.Records.Shelf
import ChainProvision.Rehearsal.Cast
import ChainProvision.Rehearsal.Deployments
import ChainProvision.Rehearsal.Performance
import ChainProvision.Rehearsal.Polling
import ChainProvision.Rehearsal.Sessions
import ChainProvision.Rehearsal.Submissions
import ChainProvision.Rehearsal.Watching
import ChainProvision.Service.Validation
import ChainProvision.Setup.Config
import ChainProvision.Setup.Directory
import ChainProvision.Setup.Failure
import ChainProvision.Signal.Observed
import ChainProvision.Text.Blank
import ChainProvision.Text.Numeral
import ChainProvision.Text.Printable
import ChainProvision.Text.Search
import ChainProvision.Text.Utf8
import ChainProvision.Time.Instant
import ChainProvision.Time.Span
import ChainProvision.Time.SpanReader
import ChainProvision.Transaction.Failure
import ChainProvision.Transaction.Tracker
import ChainProvision.Uri
import ChainProvision.Wire.Fields
import ChainProvision.Wire.Identity
import ChainProvision.Yaml.Fields
import ChainProvision.Yaml.Node
import ChainProvision.Yaml.Position
import ChainProvision.Yaml.Reading
import ChainProvision.Yaml.Scalar
import ChainProvision.Yaml.Tag
import ChainProvision.Yaml.Token.Basic
import ChainProvision.Yaml.Token.Block
import ChainProvision.Yaml.Token.Lexer
import ChainProvision.Yaml.Token.Plain
import ChainProvision.Yaml.Token.Quoted
import ChainProvision.Yaml.Token.Tag
import ChainProvision.Proofs.Text.Characters
import ChainProvision.Proofs.Text.Numeral
import ChainProvision.Proofs.Text.Search
import ChainProvision.Proofs.Text.Utf8
import ChainProvision.Proofs.Follow.Inquiry
import ChainProvision.Proofs.Follow.Delivery
import ChainProvision.Proofs.Follow.Keys
import ChainProvision.Proofs.Follow.Post
import ChainProvision.Proofs.Follow.Polling
import ChainProvision.Proofs.Follow.Reception
import ChainProvision.Proofs.Follow.Finding
import ChainProvision.Proofs.Follow.Latch
import ChainProvision.Proofs.Follow.Rounds
import ChainProvision.Proofs.Follow.Pace
import ChainProvision.Proofs.Follow.Flags
import ChainProvision.Proofs.Signal.Announcement
import ChainProvision.Proofs.Transaction.Account
import ChainProvision.Proofs.Transaction.Settlement
import ChainProvision.Proofs.Transaction.Observer
import ChainProvision.Proofs.Transaction.Solo
import ChainProvision.Proofs.Transaction.Gain
import ChainProvision.Proofs.Deployment.Coherence
import ChainProvision.Proofs.Deployment.Turn
import ChainProvision.Proofs.Deployment.TurnStep
import ChainProvision.Proofs.Deployment.Reachable
import ChainProvision.Proofs.Deployment.Progression
import ChainProvision.Proofs.Deployment.Bookkeeping
import ChainProvision.Proofs.Deployment.Derived
import ChainProvision.Proofs.Deployment.Discovery
import ChainProvision.Proofs.Deployment.Stages
import ChainProvision.Proofs.Deployment.Relay
import ChainProvision.Proofs.Deployment.Wait
import ChainProvision.Proofs.Deployment.JobRoute
import ChainProvision.Proofs.Deployment.ServiceRoute
import ChainProvision.Proofs.Deployment.Opening
import ChainProvision.Proofs.Deployment.Findings
import ChainProvision.Proofs.Deployment.Selection
import ChainProvision.Proofs.Deployment.Origin
import ChainProvision.Proofs.Deployment.Authority
import ChainProvision.Proofs.Deployment.Naming
import ChainProvision.Proofs.Deployment.Readiness
import ChainProvision.Proofs.Deployment.Strategy
import ChainProvision.Proofs.Deployment.Crew
import ChainProvision.Proofs.Deployment.Supersession
import ChainProvision.Proofs.Deployment.Tandem
import ChainProvision.Proofs.Deployment.Outage
import ChainProvision.Proofs.Deployment.Frozen
import ChainProvision.Proofs.Deployment.Mirror
import ChainProvision.Proofs.Deployment.Foreign
import ChainProvision.Proofs.Deployment.PollError
import ChainProvision.Proofs.Deployment.Announcement
import ChainProvision.Proofs.Deployment.Aftermath
import ChainProvision.Proofs.Deployment.Journalled
import ChainProvision.Proofs.Deployment.Setback
import ChainProvision.Proofs.Deployment.Unlimited
import ChainProvision.Proofs.Deployment.Deadline
import ChainProvision.Proofs.Json.Written
import ChainProvision.Proofs.Time.Written
import ChainProvision.Proofs.Identity.Written
import ChainProvision.Proofs.Json.Records
import ChainProvision.Proofs.Wire.Survival
import ChainProvision.Proofs.Yaml.Scanning
import ChainProvision.Proofs.Yaml.Lines
import ChainProvision.Proofs.Yaml.Members
import ChainProvision.Proofs.Operator.Url
import ChainProvision.Proofs.Setup.Template
import ChainProvision.Proofs.Setup.Directory
import ChainProvision.Proofs.Operator.Port
import ChainProvision.Proofs.Console.Course
import ChainProvision.Proofs.Json.Members
import ChainProvision.Proofs.Operator.Spelling
import ChainProvision.Proofs.Transaction.Reason
import ChainProvision.Proofs.Identity.Hexadecimal
import ChainProvision.Proofs.Identity.Label
import ChainProvision.Proofs.Deployment.Payload
import ChainProvision.Proofs.Setup.JobValue
import ChainProvision.Proofs.Records.Stores
