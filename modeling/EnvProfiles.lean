import EnvProfiles.Cli.Form
import EnvProfiles.Cli.Invocation
import EnvProfiles.Cli.Scan
import EnvProfiles.Command.Completion
import EnvProfiles.Command.Edit
import EnvProfiles.Command.Environment
import EnvProfiles.Command.Run
import EnvProfiles.Command.RunRequest
import EnvProfiles.Command.Stored
import EnvProfiles.Command.Transfer
import EnvProfiles.Decimal.Double
import EnvProfiles.Decimal.Floating
import EnvProfiles.Decimal.Literal
import EnvProfiles.Decimal.Range
import EnvProfiles.Decimal.Shortest
import EnvProfiles.Dict
import EnvProfiles.Fault
import EnvProfiles.Files.FileSystem
import EnvProfiles.Files.Path
import EnvProfiles.Files.Terrain
import EnvProfiles.Launch
import EnvProfiles.Log.File
import EnvProfiles.Log.Level
import EnvProfiles.Log.Options
import EnvProfiles.Machine.Boundary
import EnvProfiles.Machine.Disk
import EnvProfiles.Machine.Job
import EnvProfiles.Machine.Programs
import EnvProfiles.Machine.Stream
import EnvProfiles.Main
import EnvProfiles.Profile.Document
import EnvProfiles.Profile.Fault
import EnvProfiles.Profile.Resolver
import EnvProfiles.Profile.Visit
import EnvProfiles.Program
import EnvProfiles.Proofs.Overlay
import EnvProfiles.Proofs.Resolving.Ancestry
import EnvProfiles.Proofs.Resolving.Derivation
import EnvProfiles.Proofs.Resolving.Effort
import EnvProfiles.Proofs.Resolving.Faults
import EnvProfiles.Proofs.Resolving.History
import EnvProfiles.Proofs.Resolving.Memory
import EnvProfiles.Proofs.Resolving.Nesting
import EnvProfiles.Proofs.Resolving.Plain
import EnvProfiles.Proofs.Resolving.Solution
import EnvProfiles.Rendering
import EnvProfiles.Settings.Basic
import EnvProfiles.Settings.Decode
import EnvProfiles.Settings.Effective
import EnvProfiles.Settings.KeyPath
import EnvProfiles.Settings.Loader
import EnvProfiles.Settings.Value
import EnvProfiles.Shell.Arithmetic
import EnvProfiles.Shell.Fields
import EnvProfiles.Shell.Find
import EnvProfiles.Shell.Input
import EnvProfiles.Shell.Jobs
import EnvProfiles.Shell.Limits
import EnvProfiles.Shell.Parameters
import EnvProfiles.Shell.Pattern
import EnvProfiles.Shell.Read
import EnvProfiles.Shell.Run
import EnvProfiles.Shell.Script
import EnvProfiles.Shell.Session
import EnvProfiles.Shell.Signal
import EnvProfiles.Shell.Source
import EnvProfiles.Shell.Starters
import EnvProfiles.Shell.Surroundings
import EnvProfiles.Store.Basic
import EnvProfiles.Store.Database
import EnvProfiles.Store.DatabaseName
import EnvProfiles.Store.Memory
import EnvProfiles.Store.Table
import EnvProfiles.Template
import EnvProfiles.Text.Blank
import EnvProfiles.Text.Cased
import EnvProfiles.Text.CharRanges
import EnvProfiles.Text.Escape
import EnvProfiles.Text.Hidden
import EnvProfiles.Text.LowerCase
import EnvProfiles.Text.Octets
import EnvProfiles.Text.Quoted
import EnvProfiles.Toml.Moment
import EnvProfiles.Toml.Number
import EnvProfiles.Toml.Read
import EnvProfiles.Toml.Space
import EnvProfiles.Toml.Text
import EnvProfiles.Toml.Tree
import EnvProfiles.Toml.Value
import EnvProfiles.Tool.Blocks
import EnvProfiles.Tool.Calendar
import EnvProfiles.Tool.Compare
import EnvProfiles.Tool.Condition
import EnvProfiles.Tool.Digest
import EnvProfiles.Tool.Dump
import EnvProfiles.Tool.Escape
import EnvProfiles.Tool.Files
import EnvProfiles.Tool.Layout
import EnvProfiles.Tool.LineEditor
import EnvProfiles.Tool.LineScript
import EnvProfiles.Tool.Lines
import EnvProfiles.Tool.Listing
import EnvProfiles.Tool.Options
import EnvProfiles.Tool.Printf
import EnvProfiles.Tool.Quote
import EnvProfiles.Tool.Reckon
import EnvProfiles.Tool.Regex
import EnvProfiles.Tool.Search
import EnvProfiles.Tool.Sorting
import EnvProfiles.Tool.System
import EnvProfiles.Tool.Table
import EnvProfiles.Tool.Translate
import EnvProfiles.Tool.Words
import EnvProfiles.Yaml.Block
import EnvProfiles.Yaml.Cursor
import EnvProfiles.Yaml.Fold
import EnvProfiles.Yaml.Lexer
import EnvProfiles.Yaml.Node
import EnvProfiles.Yaml.Plain
import EnvProfiles.Yaml.Quoted
import EnvProfiles.Yaml.Read
import EnvProfiles.Yaml.Scalar
import EnvProfiles.Yaml.Token
import EnvProfiles.Yaml.Value
import EnvProfiles.Yaml.Word
import EnvProfiles.Proofs.Resolving.Scopes
import EnvProfiles.Proofs.Changes
import EnvProfiles.Proofs.Resolving.Search
import EnvProfiles.Proofs.Resolving.Depth
import EnvProfiles.Proofs.Resolving.Locality
import EnvProfiles.Proofs.Resolving.Reexports
import EnvProfiles.Proofs.Resolving.Several
import EnvProfiles.Proofs.Resolving.Unread
import EnvProfiles.Proofs.Listing
import EnvProfiles.Proofs.Resolving.Redundancy
import EnvProfiles.Proofs.Stores.Contents
import EnvProfiles.Proofs.Stores.Kinds
import EnvProfiles.Proofs.Stores.Histories
import EnvProfiles.Proofs.Files.Paths
import EnvProfiles.Proofs.Files.Ways
import EnvProfiles.Proofs.Files.WellFormed
import EnvProfiles.Proofs.Files.Directories
import EnvProfiles.Proofs.Transfer.Export
import EnvProfiles.Proofs.Transfer.Import
import EnvProfiles.Proofs.Transfer.RoundTrip
import EnvProfiles.Proofs.Resolving.Renaming
import EnvProfiles.Proofs.Transfer.Refusals
import EnvProfiles.Proofs.Stores.Independence
import EnvProfiles.Proofs.Stores.Observing
import EnvProfiles.Proofs.Stores.Sessions
import EnvProfiles.Proofs.Stores.Operations
import EnvProfiles.Proofs.Settings.Options
import EnvProfiles.Proofs.Settings.Layers
import EnvProfiles.Proofs.Settings.Tables
import EnvProfiles.Proofs.Settings.VariableNames
import EnvProfiles.Proofs.Settings.Order
import EnvProfiles.Proofs.Settings.Calls
import EnvProfiles.Proofs.Settings.Precedence
import EnvProfiles.Proofs.Templates.Positions
import EnvProfiles.Proofs.Templates.Braces
import EnvProfiles.Proofs.Transfer.Effects
import EnvProfiles.Proofs.Stores.Opening
import EnvProfiles.Proofs.Stores.Reopening
import EnvProfiles.Proofs.Stores.Steadiness
import EnvProfiles.Proofs.Files.Reading
import EnvProfiles.Proofs.Resolving.Verdicts
import EnvProfiles.Proofs.Transfer.Arrivals
import EnvProfiles.Proofs.Documents.Reading
import EnvProfiles.Proofs.Settings.Texts
import EnvProfiles.Proofs.Settings.LoadedFiles
import EnvProfiles.Proofs.Renderings.Json
import EnvProfiles.Proofs.Renderings.ReadingBack
import EnvProfiles.Proofs.CommandLine.PassedOn
import EnvProfiles.Proofs.Stores.Stored
import EnvProfiles.Proofs.Running.AllOrNothing
import EnvProfiles.Proofs.Resolving.Coherence
import EnvProfiles.Proofs.Building
import EnvProfiles.Proofs.CommandLine.KeyLists
