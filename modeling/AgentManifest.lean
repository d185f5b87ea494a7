import AgentManifest.Agent.Basic
import AgentManifest.Agent.Request
import AgentManifest.Agent.Resource
import AgentManifest.Agent.Tool
import AgentManifest.Agent.ToolType
import AgentManifest.Batch.Report
import AgentManifest.Batch.Run
import AgentManifest.Batch.Schedule
import AgentManifest.Build.Builder
import AgentManifest.Build.Overrides
import AgentManifest.CommandLine.Options
import AgentManifest.CommandLine.Program
import AgentManifest.CommandLine.RunId
import AgentManifest.Decimal.Binary64
import AgentManifest.Decimal.Literal
import AgentManifest.Decimal.Notation
import AgentManifest.Decimal.Shortest
import AgentManifest.Delivery.Claims
import AgentManifest.Delivery.CreateCall
import AgentManifest.Delivery.CreateMode
import AgentManifest.Delivery.Destination
import AgentManifest.Delivery.Endpoint
import AgentManifest.Delivery.RenderError
import AgentManifest.Delivery.SafeName
import AgentManifest.Delivery.Sink
import AgentManifest.Delivery.Statement
import AgentManifest.Document.Format
import AgentManifest.Document.Location
import AgentManifest.Document.Reader
import AgentManifest.Documents
import AgentManifest.Failure
import AgentManifest.FieldPath
import AgentManifest.FilePath
import AgentManifest.Files.Fault
import AgentManifest.Files.Route
import AgentManifest.Files.Tree
import AgentManifest.Json.Basic
import AgentManifest.Json.Printer
import AgentManifest.Json.Reader
import AgentManifest.Keyed
import AgentManifest.Log
import AgentManifest.Main
import AgentManifest.Proofs.Agent.Bounds
import AgentManifest.Proofs.Agent.Delivery
import AgentManifest.Proofs.Agent.Request
import AgentManifest.Proofs.Agent.Resource
import AgentManifest.Proofs.Agent.Restatement
import AgentManifest.Proofs.Batch.Account
import AgentManifest.Proofs.Batch.Recorded
import AgentManifest.Proofs.Batch.Schedule
import AgentManifest.Proofs.Batch.Search
import AgentManifest.Proofs.Batch.Tasks
import AgentManifest.Proofs.Build.Agreement
import AgentManifest.Proofs.Build.Consistency
import AgentManifest.Proofs.Build.Overridden
import AgentManifest.Proofs.Build.Places
import AgentManifest.Proofs.Build.ReportLines
import AgentManifest.Proofs.Build.RequestBody
import AgentManifest.Proofs.Build.Return
import AgentManifest.Proofs.Decimal.Integers
import AgentManifest.Proofs.Decimal.Numerals
import AgentManifest.Proofs.Delivery.Apart
import AgentManifest.Proofs.Delivery.Blocks
import AgentManifest.Proofs.Delivery.Calls
import AgentManifest.Proofs.Delivery.Contained
import AgentManifest.Proofs.Delivery.Directory
import AgentManifest.Proofs.Delivery.DollarQuotes
import AgentManifest.Proofs.Delivery.Endpoint
import AgentManifest.Proofs.Delivery.FailedCalls
import AgentManifest.Proofs.Delivery.FileNames
import AgentManifest.Proofs.Delivery.Printing
import AgentManifest.Proofs.Delivery.Statement
import AgentManifest.Proofs.Document.Distinct
import AgentManifest.Proofs.Document.Location
import AgentManifest.Proofs.Document.Messages
import AgentManifest.Proofs.Document.Offsets
import AgentManifest.Proofs.Document.Reading
import AgentManifest.Proofs.FieldPath
import AgentManifest.Proofs.Files.Growth
import AgentManifest.Proofs.Files.Path
import AgentManifest.Proofs.Files.Route
import AgentManifest.Proofs.Json.Distinct
import AgentManifest.Proofs.Json.Grammar
import AgentManifest.Proofs.Json.Objects
import AgentManifest.Proofs.Json.Places
import AgentManifest.Proofs.Json.Reading
import AgentManifest.Proofs.Json.WellFormed
import AgentManifest.Proofs.Keyed.Edited
import AgentManifest.Proofs.Keyed.Order
import AgentManifest.Proofs.Outcome
import AgentManifest.Proofs.Record.Assured
import AgentManifest.Proofs.Record.Fits
import AgentManifest.Proofs.Record.Restored
import AgentManifest.Proofs.Resolution.Issues
import AgentManifest.Proofs.Resolution.Order
import AgentManifest.Proofs.Resolution.Payload
import AgentManifest.Proofs.Resolution.Policy
import AgentManifest.Proofs.Resolution.Service
import AgentManifest.Proofs.Schema.Annotations
import AgentManifest.Proofs.Schema.Closed
import AgentManifest.Proofs.Schema.Compiled
import AgentManifest.Proofs.Schema.Descent
import AgentManifest.Proofs.Schema.FaultPlaces
import AgentManifest.Proofs.Schema.Faults
import AgentManifest.Proofs.Schema.Locations
import AgentManifest.Proofs.Schema.LoneReferences
import AgentManifest.Proofs.Schema.Misfits
import AgentManifest.Proofs.Schema.References
import AgentManifest.Proofs.Schema.RuleFaults
import AgentManifest.Proofs.Schema.Subset
import AgentManifest.Proofs.Schema.Values
import AgentManifest.Proofs.Settings.Layers
import AgentManifest.Proofs.Text.Lines
import AgentManifest.Proofs.Text.LongestText
import AgentManifest.Proofs.Text.Utf8
import AgentManifest.Proofs.Toml.Definitions
import AgentManifest.Proofs.Toml.Distinct
import AgentManifest.Proofs.Toml.Faults
import AgentManifest.Proofs.Toml.Places
import AgentManifest.Proofs.Url.Address
import AgentManifest.Proofs.Url.Host
import AgentManifest.Proofs.Url.Path
import AgentManifest.Proofs.Validation.Acceptance
import AgentManifest.Proofs.Validation.AgentDraft
import AgentManifest.Proofs.Validation.AgentOrder
import AgentManifest.Proofs.Validation.BuildingBlocks
import AgentManifest.Proofs.Validation.Conformance
import AgentManifest.Proofs.Validation.DocumentOrder
import AgentManifest.Proofs.Validation.Draft
import AgentManifest.Proofs.Validation.DraftAgreement
import AgentManifest.Proofs.Validation.Following
import AgentManifest.Proofs.Validation.IntegerBounds
import AgentManifest.Proofs.Validation.Messages
import AgentManifest.Proofs.Validation.Parts
import AgentManifest.Proofs.Validation.Places
import AgentManifest.Proofs.Validation.Quiet
import AgentManifest.Proofs.Validation.Reports
import AgentManifest.Record.Mismatch
import AgentManifest.Record.Reading
import AgentManifest.Record.Shape
import AgentManifest.Record.Source
import AgentManifest.Resolution.Issue
import AgentManifest.Resolution.Join
import AgentManifest.Resolution.Policy
import AgentManifest.Schema.AgentSchema
import AgentManifest.Schema.Basic
import AgentManifest.Schema.Document
import AgentManifest.Schema.Fault
import AgentManifest.Schema.JsonType
import AgentManifest.Schema.Lookup
import AgentManifest.Settings.Config
import AgentManifest.Settings.ConfigFile
import AgentManifest.Settings.Effective
import AgentManifest.Settings.Home
import AgentManifest.Settings.Logging
import AgentManifest.Text.Blank
import AgentManifest.Text.Cursor
import AgentManifest.Text.Position
import AgentManifest.Text.Quoted
import AgentManifest.Text.Split
import AgentManifest.Text.Unicode.DecompositionTable
import AgentManifest.Text.Unicode.HiddenTable
import AgentManifest.Text.Unicode.MarkTable
import AgentManifest.Text.Unicode.Normalization
import AgentManifest.Text.Unicode.Table
import AgentManifest.Text.Utf8
import AgentManifest.Toml.DateTime
import AgentManifest.Toml.Fault
import AgentManifest.Toml.Scalar
import AgentManifest.Toml.Statement
import AgentManifest.Toml.Table
import AgentManifest.Toml.Token
import AgentManifest.Toml.Value
import AgentManifest.Url.Basic
import AgentManifest.Url.Domain
import AgentManifest.Url.Domain.DirectionTable
import AgentManifest.Url.Domain.MappingTable
import AgentManifest.Url.Fault
import AgentManifest.Url.Host
import AgentManifest.Url.Ipv4
import AgentManifest.Url.Ipv6
import AgentManifest.Url.Path
import AgentManifest.Url.PercentCoding
import AgentManifest.Url.Punycode
import AgentManifest.Validation.Findings
import AgentManifest.Validation.Violation
import AgentManifest.Workspace
import AgentManifest.Yaml.Document
import AgentManifest.Yaml.Event
import AgentManifest.Yaml.Event.Grammar
import AgentManifest.Yaml.Fault
import AgentManifest.Yaml.Mark
import AgentManifest.Yaml.ScalarValue
import AgentManifest.Yaml.Token
import AgentManifest.Yaml.Token.Lexer
import AgentManifest.Yaml.Token.Scalar
import AgentManifest.Yaml.Token.Tag
import AgentManifest.Yaml.Value
