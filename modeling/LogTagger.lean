import LogTagger.Attribute
import LogTagger.AttributeFilter
import LogTagger.Cache.Basic
import LogTagger.Cache.Reconciliation
import LogTagger.Config.Directory
import LogTagger.Config.File
import LogTagger.Config.Loading
import LogTagger.Config.Settings
import LogTagger.Config.Validation
import LogTagger.ContainerId
import LogTagger.Daemon.Basic
import LogTagger.Daemon.Build
import LogTagger.Daemon.CommandLine
import LogTagger.Daemon.Error
import LogTagger.Daemon.Run
import LogTagger.Daemon.Settings
import LogTagger.Daemon.Stream
import LogTagger.Docker.Container
import LogTagger.Docker.Service
import LogTagger.Docker.Shapes
import LogTagger.Document
import LogTagger.Endpoint
import LogTagger.Enricher
import LogTagger.Error
import LogTagger.Event
import LogTagger.Flatten.Ecs
import LogTagger.Flatten.Flattener
import LogTagger.Flatten.Generic
import LogTagger.Flatten.Naming
import LogTagger.Health
import LogTagger.Http
import LogTagger.Json.Basic
import LogTagger.Json.Decoding
import LogTagger.Json.Draft
import LogTagger.Json.Number
import LogTagger.Json.Printer
import LogTagger.Json.Reader
import LogTagger.Json.Shape
import LogTagger.Main
import LogTagger.Metrics
import LogTagger.Number.Double
import LogTagger.Number.Notation
import LogTagger.Number.Reading
import LogTagger.Number.Shortest
import LogTagger.Pattern.Automaton
import LogTagger.Pattern.Bracket
import LogTagger.Pattern.Escape
import LogTagger.Pattern.Parser
import LogTagger.Pattern.PropertyName
import LogTagger.Pattern.Regex
import LogTagger.Pattern.Scanner
import LogTagger.Pattern.Utf8
import LogTagger.Processor
import LogTagger.Processor.Run
import LogTagger.Proofs.AttributeFilter
import LogTagger.Proofs.Cache.CacheLog
import LogTagger.Proofs.Cache.Interleaving
import LogTagger.Proofs.Cache.Outcome
import LogTagger.Proofs.Cache.Reconciliation
import LogTagger.Proofs.Cache.Serial
import LogTagger.Proofs.Cache.Serialisation
import LogTagger.Proofs.Cache.SyncRun
import LogTagger.Proofs.Cache.Turn
import LogTagger.Proofs.Config.Buildable
import LogTagger.Proofs.Config.Checks
import LogTagger.Proofs.Config.Fields
import LogTagger.Proofs.Config.Layers
import LogTagger.Proofs.Config.Replacement
import LogTagger.Proofs.ContainerId
import LogTagger.Proofs.Daemon.Lifetime
import LogTagger.Proofs.Daemon.Listener
import LogTagger.Proofs.Docker.Discovery
import LogTagger.Proofs.Docker.Environment
import LogTagger.Proofs.Docker.Search
import LogTagger.Proofs.Document
import LogTagger.Proofs.Enrichment.Agents
import LogTagger.Proofs.Enrichment.Barrier
import LogTagger.Proofs.Enrichment.Frame
import LogTagger.Proofs.Enrichment.Repetition
import LogTagger.Proofs.Enrichment.Totals
import LogTagger.Proofs.Flatten.Agreement
import LogTagger.Proofs.Flatten.Collisions
import LogTagger.Proofs.Flatten.Distinct
import LogTagger.Proofs.Flatten.EcsDocument
import LogTagger.Proofs.Flatten.EcsPlaces
import LogTagger.Proofs.Flatten.EcsSchema
import LogTagger.Proofs.Flatten.FinalKeys
import LogTagger.Proofs.Flatten.Leaves
import LogTagger.Proofs.Flatten.Literal
import LogTagger.Proofs.Flatten.Naming
import LogTagger.Proofs.Flatten.Outline
import LogTagger.Proofs.Flatten.Walker
import LogTagger.Proofs.Flatten.Words
import LogTagger.Proofs.Gate.Admission
import LogTagger.Proofs.Gate.Alone
import LogTagger.Proofs.Gate.Basic
import LogTagger.Proofs.Gate.Cancellation
import LogTagger.Proofs.Gate.Ledger
import LogTagger.Proofs.Gate.Line
import LogTagger.Proofs.Gate.Moves
import LogTagger.Proofs.Gate.Progress
import LogTagger.Proofs.Health
import LogTagger.Proofs.Json.Numbers
import LogTagger.Proofs.Json.Printer
import LogTagger.Proofs.Json.RoundTrip
import LogTagger.Proofs.Json.Settling
import LogTagger.Proofs.Json.Strings
import LogTagger.Proofs.Processor.Lockstep
import LogTagger.Proofs.Record.RoundTrip
import LogTagger.Proofs.Record.Scalars
import LogTagger.Proofs.Scheduler.Accounts
import LogTagger.Proofs.Scheduler.Chronicle
import LogTagger.Proofs.Scheduler.Completion
import LogTagger.Proofs.Scheduler.Creations
import LogTagger.Proofs.Scheduler.Cycle
import LogTagger.Proofs.Scheduler.Health
import LogTagger.Proofs.Scheduler.Lifecycle
import LogTagger.Proofs.Scheduler.Pace
import LogTagger.Proofs.Scheduler.Rehearsal
import LogTagger.Proofs.Scheduler.Replay
import LogTagger.Proofs.Scheduler.Requests
import LogTagger.Proofs.Scheduler.SiftedRehearsal
import LogTagger.Proofs.Scheduler.Sifting
import LogTagger.Proofs.Scheduler.Steps
import LogTagger.Proofs.Scheduler.Timer
import LogTagger.Proofs.Scheduler.Within
import LogTagger.Proofs.SocketAddress
import LogTagger.Proofs.SortedMap
import LogTagger.Proofs.Stream.Meanwhile
import LogTagger.Proofs.Stream.Resilience
import LogTagger.Proofs.Stream.RoundTrip
import LogTagger.Proofs.Stream.Transduction
import LogTagger.Proofs.Text.Octets
import LogTagger.Proofs.Text.Utf8
import LogTagger.Record
import LogTagger.Scheduler.Basic
import LogTagger.Scheduler.Rehearsal
import LogTagger.SocketAddress
import LogTagger.SortedMap
import LogTagger.Text.Age
import LogTagger.Text.Blank
import LogTagger.Text.CaseFolding
import LogTagger.Text.Category
import LogTagger.Text.CharSet
import LogTagger.Text.Digits
import LogTagger.Text.Lines
import LogTagger.Text.Property
import LogTagger.Text.Script
import LogTagger.Text.Segmentation
import LogTagger.Text.Utf8
import LogTagger.Toml.Basic
import LogTagger.Toml.Reader
import LogTagger.Toml.Scalar
import LogTagger.Toml.Table
import LogTagger.Toml.Text
