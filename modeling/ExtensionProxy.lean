import ExtensionProxy.Boundary.Bytes
import ExtensionProxy.Boundary.Entry
import ExtensionProxy.Boundary.Fatal
import ExtensionProxy.Boundary.Foreign
import ExtensionProxy.Boundary.HostTable
import ExtensionProxy.Boundary.RawEvent
import ExtensionProxy.Boundary.Steps
import ExtensionProxy.Boundary.Transcript
import ExtensionProxy.Candidate
import ExtensionProxy.Category
import ExtensionProxy.CommandLine.Arguments
import ExtensionProxy.CommandLine.Grid
import ExtensionProxy.CommandLine.Report
import ExtensionProxy.Configuration.Bracketed
import ExtensionProxy.Configuration.Format
import ExtensionProxy.Configuration.Load
import ExtensionProxy.Configuration.Settings
import ExtensionProxy.Configuration.Value
import ExtensionProxy.Configuration.Variables
import ExtensionProxy.Decimal.Binary64
import ExtensionProxy.Decimal.Numeral
import ExtensionProxy.Decimal.Shortest
import ExtensionProxy.Descriptor
import ExtensionProxy.Event.Editor
import ExtensionProxy.Event.Host
import ExtensionProxy.Fault
import ExtensionProxy.FileTree
import ExtensionProxy.Handle
import ExtensionProxy.IdentityCache
import ExtensionProxy.IdentityCache.System
import ExtensionProxy.Ini.Document
import ExtensionProxy.Json.Basic
import ExtensionProxy.Json.File
import ExtensionProxy.Json.Number
import ExtensionProxy.Json.Printer
import ExtensionProxy.Json.Text
import ExtensionProxy.Json.Values
import ExtensionProxy.Json5.File
import ExtensionProxy.KeyFile.Basic
import ExtensionProxy.KeyFile.Parser
import ExtensionProxy.KeyFile.Printer
import ExtensionProxy.KeyFile.Value
import ExtensionProxy.Locale
import ExtensionProxy.Log
import ExtensionProxy.Log.Writer
import ExtensionProxy.Main
import ExtensionProxy.Module.Bench
import ExtensionProxy.Module.Binder
import ExtensionProxy.Module.SharedObject
import ExtensionProxy.OrderedMap
import ExtensionProxy.Path
import ExtensionProxy.Program
import ExtensionProxy.Proofs.Attempts
import ExtensionProxy.Proofs.Bindings
import ExtensionProxy.Proofs.Broadcast
import ExtensionProxy.Proofs.Cache
import ExtensionProxy.Proofs.Candidate
import ExtensionProxy.Proofs.Categories
import ExtensionProxy.Proofs.Changes
import ExtensionProxy.Proofs.Classification
import ExtensionProxy.Proofs.Closings
import ExtensionProxy.Proofs.Conduct
import ExtensionProxy.Proofs.Conduct.Delivery
import ExtensionProxy.Proofs.Conduct.Dispatch
import ExtensionProxy.Proofs.Conduct.Emission
import ExtensionProxy.Proofs.Conduct.Lifecycle
import ExtensionProxy.Proofs.Conduct.Makers
import ExtensionProxy.Proofs.Conduct.Service
import ExtensionProxy.Proofs.Conduct.Slots
import ExtensionProxy.Proofs.ConfigStore
import ExtensionProxy.Proofs.Containment
import ExtensionProxy.Proofs.Course
import ExtensionProxy.Proofs.Declining
import ExtensionProxy.Proofs.Dismissal
import ExtensionProxy.Proofs.Drains
import ExtensionProxy.Proofs.Emissions
import ExtensionProxy.Proofs.FileTree
import ExtensionProxy.Proofs.Foreign
import ExtensionProxy.Proofs.Frames
import ExtensionProxy.Proofs.Frames.Requests
import ExtensionProxy.Proofs.Handlers
import ExtensionProxy.Proofs.History
import ExtensionProxy.Proofs.Holdings
import ExtensionProxy.Proofs.HostTable
import ExtensionProxy.Proofs.IdentityCache
import ExtensionProxy.Proofs.KeyFile.Canonical
import ExtensionProxy.Proofs.KeyFile.Concatenation
import ExtensionProxy.Proofs.KeyFile.Contents
import ExtensionProxy.Proofs.KeyFile.Grammar
import ExtensionProxy.Proofs.KeyFile.Lines
import ExtensionProxy.Proofs.Ledger
import ExtensionProxy.Proofs.Localization
import ExtensionProxy.Proofs.LocalizedLookup
import ExtensionProxy.Proofs.Marks
import ExtensionProxy.Proofs.Modules
import ExtensionProxy.Proofs.Nesting
import ExtensionProxy.Proofs.Observing
import ExtensionProxy.Proofs.Order
import ExtensionProxy.Proofs.Outcomes
import ExtensionProxy.Proofs.Path
import ExtensionProxy.Proofs.Probing
import ExtensionProxy.Proofs.Queue
import ExtensionProxy.Proofs.Reaching
import ExtensionProxy.Proofs.Records
import ExtensionProxy.Proofs.Refusals
import ExtensionProxy.Proofs.Registry
import ExtensionProxy.Proofs.Releases
import ExtensionProxy.Proofs.Roster
import ExtensionProxy.Proofs.Runs
import ExtensionProxy.Proofs.Scanning
import ExtensionProxy.Proofs.Shown
import ExtensionProxy.Proofs.SlotIds
import ExtensionProxy.Proofs.Sources
import ExtensionProxy.Proofs.Spelling
import ExtensionProxy.Proofs.Stack
import ExtensionProxy.Proofs.Stages
import ExtensionProxy.Proofs.Step
import ExtensionProxy.Proofs.Tally.Affairs
import ExtensionProxy.Proofs.Tally.Attending
import ExtensionProxy.Proofs.Tally.Calls
import ExtensionProxy.Proofs.Tally.Counting
import ExtensionProxy.Proofs.Tally.Entering
import ExtensionProxy.Proofs.Tally.Events
import ExtensionProxy.Proofs.Tally.Programs
import ExtensionProxy.Proofs.Tasks
import ExtensionProxy.Proofs.Text
import ExtensionProxy.Proofs.Timeline
import ExtensionProxy.Proofs.Turns
import ExtensionProxy.Proofs.Waiting
import ExtensionProxy.Proxy.Call
import ExtensionProxy.Proxy.Context
import ExtensionProxy.Proxy.Delivery
import ExtensionProxy.Proxy.Dispatch
import ExtensionProxy.Proxy.History
import ExtensionProxy.Proxy.Inspect
import ExtensionProxy.Proxy.Interface
import ExtensionProxy.Proxy.Lifecycle
import ExtensionProxy.Proxy.Maker
import ExtensionProxy.Proxy.Service
import ExtensionProxy.Proxy.State
import ExtensionProxy.Proxy.Topic
import ExtensionProxy.Proxy.View
import ExtensionProxy.Ron.File
import ExtensionProxy.Run
import ExtensionProxy.Script.Cache
import ExtensionProxy.Script.Categories
import ExtensionProxy.Script.Signal
import ExtensionProxy.Script.Tasks
import ExtensionProxy.Script.Transcript
import ExtensionProxy.Session.Act
import ExtensionProxy.Session.Deed
import ExtensionProxy.Session.Foreign
import ExtensionProxy.Session.Journal
import ExtensionProxy.Session.Memory
import ExtensionProxy.Session.ModuleTrial
import ExtensionProxy.Session.Steps
import ExtensionProxy.Session.TallyTrial
import ExtensionProxy.Session.Transcript
import ExtensionProxy.Signal
import ExtensionProxy.Signal.System
import ExtensionProxy.Tally
import ExtensionProxy.TaskQueue
import ExtensionProxy.TaskQueue.System
import ExtensionProxy.Text.Blank
import ExtensionProxy.Text.CodeRange
import ExtensionProxy.Text.Decoding
import ExtensionProxy.Text.Hexadecimal
import ExtensionProxy.Text.Integer
import ExtensionProxy.Text.Lines
import ExtensionProxy.Text.Printable
import ExtensionProxy.Text.Quoted
import ExtensionProxy.Text.Width
import ExtensionProxy.Text.Width.Table
import ExtensionProxy.Toml.Document
import ExtensionProxy.Toml.Scalar
import ExtensionProxy.Toml.Table
import ExtensionProxy.Toml.Text
import ExtensionProxy.Yaml.BlockText
import ExtensionProxy.Yaml.File
import ExtensionProxy.Yaml.Line
import ExtensionProxy.Yaml.Scalar
