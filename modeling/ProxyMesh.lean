import ProxyMesh.Accounting.Contention
import ProxyMesh.Accounting.Fold
import ProxyMesh.Accounting.Run
import ProxyMesh.Balancing.Cost
import ProxyMesh.Balancing.Plan
import ProxyMesh.Command.Arguments
import ProxyMesh.Command.Grammar
import ProxyMesh.Command.Help
import ProxyMesh.Command.Machine
import ProxyMesh.Command.Run
import ProxyMesh.Command.Summary
import ProxyMesh.Command.Workspace
import ProxyMesh.Compile.Artifacts
import ProxyMesh.Compile.Balancers
import ProxyMesh.Compile.Context
import ProxyMesh.Compile.Directory
import ProxyMesh.Compile.Document
import ProxyMesh.Compile.Draft
import ProxyMesh.Compile.Fleet
import ProxyMesh.Compile.Hops
import ProxyMesh.Compile.Inbounds
import ProxyMesh.File.Path
import ProxyMesh.File.Source
import ProxyMesh.File.Spec
import ProxyMesh.Fragment.Dependents
import ProxyMesh.Fragment.Objects
import ProxyMesh.Hash.KeyStream
import ProxyMesh.Hash.Sha256
import ProxyMesh.Health.Correlator
import ProxyMesh.Health.Probe
import ProxyMesh.Health.Tracker
import ProxyMesh.Json.Basic
import ProxyMesh.Json.Check
import ProxyMesh.Json.Decoder
import ProxyMesh.Json.Fault
import ProxyMesh.Json.Number
import ProxyMesh.Json.Printer
import ProxyMesh.Json.Tree
import ProxyMesh.Main
import ProxyMesh.Number.Binary64
import ProxyMesh.Number.Bounds
import ProxyMesh.Number.Layout
import ProxyMesh.Number.Reading
import ProxyMesh.Number.Scaled
import ProxyMesh.Number.Shortest
import ProxyMesh.Series.Client
import ProxyMesh.Series.Flux
import ProxyMesh.Series.Line
import ProxyMesh.Series.Point
import ProxyMesh.Series.Query
import ProxyMesh.Series.SumTable
import ProxyMesh.Settings.Basic
import ProxyMesh.Settings.Document
import ProxyMesh.Store.Basic
import ProxyMesh.Store.Database
import ProxyMesh.Subscription.Limits
import ProxyMesh.Table
import ProxyMesh.Proofs.Tables
import ProxyMesh.Tag.Basic
import ProxyMesh.Tag.Resolve
import ProxyMesh.Template.Basic
import ProxyMesh.Template.Operand
import ProxyMesh.Template.Parser
import ProxyMesh.Template.Render
import ProxyMesh.Template.Tag
import ProxyMesh.Text.Classes
import ProxyMesh.Text.Lines
import ProxyMesh.Text.Naturals
import ProxyMesh.Text.Quoted
import ProxyMesh.Time.Civil
import ProxyMesh.Time.Reading
import ProxyMesh.Toml.Basic
import ProxyMesh.Toml.Branch
import ProxyMesh.Toml.Fault
import ProxyMesh.Toml.Printer
import ProxyMesh.Toml.Reader
import ProxyMesh.Toml.Scalar
import ProxyMesh.Toml.Text
import ProxyMesh.Topology.Documents
import ProxyMesh.Topology.Records
import ProxyMesh.Topology.Shapes
import ProxyMesh.Traffic.Ingest
import ProxyMesh.Traffic.Report
import ProxyMesh.Traffic.Stat
import ProxyMesh.Traffic.Usage
import ProxyMesh.User.Basic
import ProxyMesh.User.Consumers
import ProxyMesh.User.Secret
import ProxyMesh.Proofs.Store.Periods
import ProxyMesh.Proofs.Store.Queue
import ProxyMesh.Proofs.Store.Touches
import ProxyMesh.Proofs.Accounting.Batches
import ProxyMesh.Proofs.Accounting.Settlements
import ProxyMesh.Proofs.Accounting.Growth
import ProxyMesh.Proofs.Accounting.Draining
import ProxyMesh.Proofs.Accounting.Regressions
import ProxyMesh.Proofs.Accounting.Billing
import ProxyMesh.Proofs.Store.Leases
import ProxyMesh.Proofs.Compile.Outcomes
import ProxyMesh.Proofs.Fleet.Directories
import ProxyMesh.Proofs.Fleet.Nodes
import ProxyMesh.Proofs.Fleet.Convergence
import ProxyMesh.Proofs.Balancing.Members
import ProxyMesh.Proofs.Compile.Fields
import ProxyMesh.Proofs.Compile.Drafts
import ProxyMesh.Proofs.Compile.References
import ProxyMesh.Proofs.Text.Scanning
import ProxyMesh.Proofs.Text.Numerals
import ProxyMesh.Proofs.Number.Decimals
import ProxyMesh.Proofs.Tag.Codec
import ProxyMesh.Proofs.User.Emails
import ProxyMesh.Proofs.Traffic.Names
import ProxyMesh.Proofs.Tag.Reports
import ProxyMesh.Proofs.Compile.Parts
import ProxyMesh.Proofs.Compile.Contents
import ProxyMesh.Proofs.Compile.Documents
import ProxyMesh.Proofs.Tag.Resolution
import ProxyMesh.Proofs.Health.Resolutions
import ProxyMesh.Proofs.Compile.Consumers
import ProxyMesh.Proofs.Compile.ReverseLinks
import ProxyMesh.Proofs.Traffic.Intake
import ProxyMesh.Proofs.User.Permanence
import ProxyMesh.Proofs.User.Races
import ProxyMesh.Proofs.Subscription.Lapses
import ProxyMesh.Proofs.Traffic.Points
import ProxyMesh.Proofs.Traffic.Totals
import ProxyMesh.Proofs.Traffic.Grouping
import ProxyMesh.Proofs.Compile.Isolation
import ProxyMesh.Proofs.Compile.Digests
import ProxyMesh.Proofs.Fleet.Summaries
import ProxyMesh.Proofs.Json.Scalars
import ProxyMesh.Proofs.Json.Spelling
import ProxyMesh.Proofs.Json.Values
import ProxyMesh.Proofs.Json.Records
import ProxyMesh.Proofs.Topology.Documents
import ProxyMesh.Proofs.Store.Transfer
import ProxyMesh.Proofs.Topology.Keys
import ProxyMesh.Proofs.Subscription.CurrentPeriods
import ProxyMesh.Proofs.Subscription.Quotas
import ProxyMesh.Proofs.Compile.Merges
import ProxyMesh.Proofs.Compile.Fragments
import ProxyMesh.Proofs.Compile.Skips
import ProxyMesh.Proofs.Compile.Weightless
import ProxyMesh.Proofs.Tag.Sections
import ProxyMesh.Proofs.Compile.Hops
import ProxyMesh.Proofs.Compile.UniqueTags
import ProxyMesh.Proofs.Number.Quotients
import ProxyMesh.Proofs.Balancing.Costs
import ProxyMesh.Proofs.Balancing.Weights
import ProxyMesh.Proofs.Text.Chunks
import ProxyMesh.Proofs.Health.Lines
import ProxyMesh.Proofs.Traffic.Chunks
import ProxyMesh.Proofs.Traffic.DuePeriods
import ProxyMesh.Proofs.Fleet.Interruptions
import ProxyMesh.Proofs.Health.LinkStates
import ProxyMesh.Proofs.Series.Breaks
import ProxyMesh.Proofs.Series.LineReading
import ProxyMesh.Proofs.Text.Bytes
import ProxyMesh.Proofs.Store.Rows
import ProxyMesh.Proofs.Store.Histories
import ProxyMesh.Proofs.Store.Loading
import ProxyMesh.Proofs.Series.SumTables
import ProxyMesh.Proofs.Time.Timestamps
import ProxyMesh.Proofs.Series.Literals
import ProxyMesh.Proofs.Compile.Splices
import ProxyMesh.Proofs.Hash.Hexadecimal
import ProxyMesh.Proofs.User.Secrets
