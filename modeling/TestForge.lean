import TestForge.Artifact.Rendering
import TestForge.Artifact.Template
import TestForge.CauseChain
import TestForge.CommandLine.Arguments
import TestForge.CommandLine.Commands
import TestForge.CommandLine.EnvironmentFile
import TestForge.CommandLine.Program
import TestForge.Decimal.Shortest
import TestForge.Digest.Sha256
import TestForge.Disk
import TestForge.FileSystem.Error
import TestForge.FileSystem.Operations
import TestForge.FileSystem.Resolution
import TestForge.FileSystem.Tree
import TestForge.Framework.MarkerScan
import TestForge.Json.Decode
import TestForge.Json.Printer
import TestForge.Json.Reader
import TestForge.Json.Value
import TestForge.Layout
import TestForge.Main
import TestForge.Operation.Analysis
import TestForge.Operation.Batch
import TestForge.Operation.Call
import TestForge.Operation.Dispatcher
import TestForge.Operation.Fault
import TestForge.Operation.Generation
import TestForge.Operation.Report
import TestForge.Operation.Request
import TestForge.Operation.Setup
import TestForge.Operation.Validation
import TestForge.Path
import TestForge.Proofs.FileSystem.Growth
import TestForge.Proofs.Operation.Calls
import TestForge.Proofs.Operation.Generation
import TestForge.Proofs.Operation.Logging
import TestForge.Proofs.Operation.Soundness
import TestForge.Proofs.Report.Steps
import TestForge.Proofs.Verification.Phases
import TestForge.Repair.InPlace
import TestForge.Repair.Rule
import TestForge.Report.BatchTally
import TestForge.Report.StepLog
import TestForge.Service.Encoding
import TestForge.Service.Extraction
import TestForge.Service.Model
import TestForge.Service.Outline
import TestForge.Service.Signature
import TestForge.Service.SourcePatterns
import TestForge.Service.Summary
import TestForge.Service.SymbolTree
import TestForge.Settings.Loading
import TestForge.Settings.Model
import TestForge.Settings.Reading
import TestForge.Shell.Arithmetic
import TestForge.Shell.CharSet
import TestForge.Shell.Escape
import TestForge.Shell.Expression
import TestForge.Shell.Invocation
import TestForge.Shell.Launcher
import TestForge.Shell.Lines
import TestForge.Shell.Machine
import TestForge.Shell.Pattern
import TestForge.Shell.Reader
import TestForge.Shell.Run
import TestForge.Shell.Syntax
import TestForge.Shell.Utility
import TestForge.Standards
import TestForge.Text.Blank
import TestForge.Text.Brackets
import TestForge.Text.DecimalDigit
import TestForge.Text.HexDigit
import TestForge.Text.LowerCase
import TestForge.Text.Search
import TestForge.Text.Shown
import TestForge.Text.Utf8
import TestForge.Text.WordChar
import TestForge.ToolServer.Catalog
import TestForge.ToolServer.Session
import TestForge.Toolchain.Failure
import TestForge.Toolchain.Gradle
import TestForge.Toolchain.Interface
import TestForge.Toolchain.Launch
import TestForge.Toolchain.Output
import TestForge.Toolchain.Script
import TestForge.Verification.AttemptRecord
import TestForge.Verification.Clock
import TestForge.Verification.Loop
import TestForge.Verification.Retry
import TestForge.Yaml.Cursor
import TestForge.Yaml.Node
import TestForge.Yaml.Property
import TestForge.Yaml.Reading
import TestForge.Yaml.Scalar
import TestForge.Yaml.Token
import TestForge.Yaml.TokenStream
import TestForge.Proofs.Operation.BatchFold
import TestForge.Proofs.Text.Blank
import TestForge.Proofs.Text.Brackets
import TestForge.Proofs.Service.Printing
import TestForge.Proofs.Service.Patterns
import TestForge.Proofs.Service.Signature
import TestForge.Proofs.Service.Roundtrip
import TestForge.Proofs.Operation.Shape
import TestForge.Proofs.FileSystem.Files
import TestForge.Proofs.Operation.Untouched
import TestForge.Proofs.Service.Overview
import TestForge.Proofs.Verification.Repairs
import TestForge.Proofs.Operation.LeftBehind
import TestForge.Proofs.FileSystem.Linkless
import TestForge.Proofs.Verification.RecordPlaces
import TestForge.Proofs.Json.Ordered
import TestForge.Proofs.Operation.Requests
import TestForge.Proofs.ToolServer.Calls
import TestForge.Proofs.Operation.BatchErrors
import TestForge.Proofs.FileSystem.Changes
import TestForge.Proofs.Operation.Frame
import TestForge.Proofs.Layout
import TestForge.Proofs.FileSystem.Names
import TestForge.Proofs.Operation.TestClass
import TestForge.Proofs.FileSystem.Room
import TestForge.Proofs.FileSystem.Trails
import TestForge.Proofs.FileSystem.PassingBy
import TestForge.Proofs.Operation.BatchOrder
import TestForge.Proofs.Operation.Sparing
import TestForge.Proofs.Verification.Sessions
import TestForge.Proofs.Operation.Recording
import TestForge.Proofs.Operation.Regeneration
import TestForge.Proofs.Operation.Records
import TestForge.Proofs.Operation.Keeping
import TestForge.Proofs.CommandLine.Agreement
import TestForge.Proofs.Verification.Accounting
import TestForge.Proofs.Toolchain.TestRuns
import TestForge.Proofs.Artifact.Members
import TestForge.Proofs.Report.History
import TestForge.Proofs.Text.Occurrences
import TestForge.Proofs.Toolchain.Diagnostics
import TestForge.Proofs.Repair.Passes
import TestForge.Proofs.Text.Lines
import TestForge.Proofs.Artifact.Lines
import TestForge.Proofs.Artifact.Layout
import TestForge.Proofs.Service.Headers
import TestForge.Proofs.Service.FunctionHeads
import TestForge.Proofs.Service.ReturnTypes
import TestForge.Proofs.Service.TypedFunctions
import TestForge.Proofs.Layout.Modules
import TestForge.Proofs.Layout.TestNames
import TestForge.Proofs.FileSystem.Entering
import TestForge.Proofs.Framework.Walks
import TestForge.Proofs.Framework.MarkedSources
import TestForge.Proofs.FileSystem.Elsewhere
import TestForge.Proofs.Operation.ExactRecords
import TestForge.Proofs.Operation.Unnoticed
import TestForge.Proofs.FileSystem.Twins
import TestForge.Proofs.Operation.Intents
import TestForge.Proofs.Service.ParameterLists
import TestForge.Proofs.Service.Parts
import TestForge.Proofs.Artifact.Imports
import TestForge.Proofs.Repair.Switches
