import SwiftDevEnv.Backend.Error
import SwiftDevEnv.Backend.Launch
import SwiftDevEnv.Backend.Retry
import SwiftDevEnv.Cli.Invocation
import SwiftDevEnv.Cli.Run
import SwiftDevEnv.Compiler.Arguments
import SwiftDevEnv.Completion
import SwiftDevEnv.Config.Basic
import SwiftDevEnv.Config.Decode
import SwiftDevEnv.Config.Error
import SwiftDevEnv.Config.Layers
import SwiftDevEnv.Config.Load
import SwiftDevEnv.Config.Validate
import SwiftDevEnv.Cursor.Documentation
import SwiftDevEnv.Cursor.Hover
import SwiftDevEnv.Cursor.Info
import SwiftDevEnv.Cursor.Position
import SwiftDevEnv.Decimal.Binary64
import SwiftDevEnv.Decimal.Shortest
import SwiftDevEnv.Decoding.Found
import SwiftDevEnv.Discovery.Manifest
import SwiftDevEnv.Discovery.Package
import SwiftDevEnv.Discovery.Workspace
import SwiftDevEnv.FileSystem.Program
import SwiftDevEnv.FileSystem.System
import SwiftDevEnv.FileSystem.Tree
import SwiftDevEnv.FileSystem.Walk
import SwiftDevEnv.Glob.Match
import SwiftDevEnv.Glob.Pattern
import SwiftDevEnv.Glob.Set
import SwiftDevEnv.Host
import SwiftDevEnv.Json.Printer
import SwiftDevEnv.Json.Reader
import SwiftDevEnv.Json.Value
import SwiftDevEnv.Main
import SwiftDevEnv.Path
import SwiftDevEnv.Platform
import SwiftDevEnv.Proofs.Backend.Launch
import SwiftDevEnv.Proofs.Backend.Retry
import SwiftDevEnv.Proofs.Compiler.TargetInference
import SwiftDevEnv.Proofs.Completion.Cleanup
import SwiftDevEnv.Proofs.Completion.Snippet
import SwiftDevEnv.Proofs.Cursor.Position
import SwiftDevEnv.Proofs.Discovery.Sources
import SwiftDevEnv.Proofs.Discovery.SwiftFiles
import SwiftDevEnv.Proofs.FileSystem.Walk
import SwiftDevEnv.Proofs.Path.Normalize
import SwiftDevEnv.Proofs.Session.Format
import SwiftDevEnv.Proofs.Session.Generation
import SwiftDevEnv.Proofs.Session.Process
import SwiftDevEnv.Proofs.Session.Task
import SwiftDevEnv.Proofs.Session.Window
import SwiftDevEnv.Proofs.Target.ClosestOwner
import SwiftDevEnv.Proofs.Target.Flatten
import SwiftDevEnv.Proofs.Target.Ownership
import SwiftDevEnv.Proofs.Text.Utf8
import SwiftDevEnv.Proofs.Toml.DistinctKeys
import SwiftDevEnv.Proofs.Toml.Overlay
import SwiftDevEnv.Proofs.Toml.Records
import SwiftDevEnv.Proofs.Config.Fields
import SwiftDevEnv.Proofs.Config.Layering
import SwiftDevEnv.Proofs.Wire.Chunking
import SwiftDevEnv.Proofs.Wire.Frame
import SwiftDevEnv.Proofs.Wire.IdealMap
import SwiftDevEnv.Proofs.Wire.Ledger
import SwiftDevEnv.Proofs.Wire.Request
import SwiftDevEnv.Proofs.Wire.SlotTable
import SwiftDevEnv.Session.Basic
import SwiftDevEnv.Session.Client
import SwiftDevEnv.Session.Task
import SwiftDevEnv.Shell.CommandLine
import SwiftDevEnv.Target.Basic
import SwiftDevEnv.Target.Index
import SwiftDevEnv.Text.Blank
import SwiftDevEnv.Text.Printable
import SwiftDevEnv.Text.Quote
import SwiftDevEnv.Text.Search
import SwiftDevEnv.Text.Utf8
import SwiftDevEnv.Toml.Datetime
import SwiftDevEnv.Toml.Decode
import SwiftDevEnv.Toml.Document
import SwiftDevEnv.Toml.Error
import SwiftDevEnv.Toml.Grammar
import SwiftDevEnv.Toml.Inline
import SwiftDevEnv.Toml.Node
import SwiftDevEnv.Toml.Number
import SwiftDevEnv.Toml.Table
import SwiftDevEnv.Toml.Text
import SwiftDevEnv.Wire.Frame
import SwiftDevEnv.Wire.Request
import SwiftDevEnv.Wire.Response
import SwiftDevEnv.Wire.SlotTable
import SwiftDevEnv.Xml.Reader
import SwiftDevEnv.Xml.Tree
import SwiftDevEnv.Yaml.Document
import SwiftDevEnv.Yaml.Input
import SwiftDevEnv.Yaml.Parser
import SwiftDevEnv.Yaml.Reading
import SwiftDevEnv.Yaml.Scalar
import SwiftDevEnv.Yaml.Scanner
import SwiftDevEnv.Yaml.ToJson
import SwiftDevEnv.Yaml.Token
import SwiftDevEnv.Yaml.Value
