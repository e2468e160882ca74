import ControlPlane.Json.Basic
import ControlPlane.Json.Write
import ControlPlane.Json.Fields
import ControlPlane.Digest.Sha256
import ControlPlane.Store.Basic
import ControlPlane.Text.Quoted
import ControlPlane.Store.Hub
import ControlPlane.Store.State
import ControlPlane.Store.Watch
import ControlPlane.Error
import ControlPlane.Key.Grammar
import ControlPlane.Store.PrefixEnd
import ControlPlane.Key.Space
import ControlPlane.Service.Descriptor
import ControlPlane.Text.Ranges
import ControlPlane.Text.DecimalDigit
import ControlPlane.Text.WordChar
import ControlPlane.Text.CaseFold
import ControlPlane.Text.RangeText
import ControlPlane.Text.Category
import ControlPlane.Text.Script
import ControlPlane.Text.BooleanProperty
import ControlPlane.Text.Age
import ControlPlane.Text.Segmentation
import ControlPlane.Text.PropertyName
import ControlPlane.Pattern.Syntax
import ControlPlane.Pattern.Parse
import ControlPlane.Text.ByteSequences
import ControlPlane.Pattern.ClassRanges
import ControlPlane.Pattern.Shape
import ControlPlane.Pattern.Footprint
import ControlPlane.Pattern.Match
import ControlPlane.Key.Policy
import ControlPlane.Net.Address
import ControlPlane.Net.Mapping
import ControlPlane.Registry.Lease
import ControlPlane.Index.Row
import ControlPlane.Index.Like
import ControlPlane.Index.Table
import ControlPlane.Index.Ledger
import ControlPlane.Reconcile.Mode
import ControlPlane.Api.Envelope
import ControlPlane.Metrics
import ControlPlane.Yaml.Scanner
import ControlPlane.Yaml.Parser
import ControlPlane.Yaml.Document
import ControlPlane.Text.Float
import ControlPlane.Yaml.Decode
import ControlPlane.Settings
import ControlPlane.Host.Files
import ControlPlane.Plane.Basic
import ControlPlane.Registry.Discover
import ControlPlane.Registry.Register
import ControlPlane.Configs.Basic
import ControlPlane.Plane.Watch
import ControlPlane.Reconcile.Run
import ControlPlane.Session.Step
import ControlPlane.Session.Answer
import ControlPlane.Session.Run
import ControlPlane.Text.Similarity
import ControlPlane.CommandLine.Grammar
import ControlPlane.CommandLine.Help
import ControlPlane.CommandLine.Failure
import ControlPlane.CommandLine.Parse
import ControlPlane.Program.Invocation
import ControlPlane.Text.Utf8
import ControlPlane.Index.Location
import ControlPlane.Program.Log
import ControlPlane.Program.LogFilter
import ControlPlane.Program.Report
import ControlPlane.Program.Run
import ControlPlane.Main
import ControlPlane.Proofs.Store.Tables
import ControlPlane.Proofs.Store.Leases
import ControlPlane.Proofs.Store.Invariant
import ControlPlane.Proofs.Store.Journal
import ControlPlane.Proofs.Store.Delivery
import ControlPlane.Proofs.Json.ReadBack
import ControlPlane.Proofs.Key.Codec
import ControlPlane.Proofs.Store.Keys
import ControlPlane.Proofs.Store.PrefixRange
import ControlPlane.Proofs.Store.ByteOrder
import ControlPlane.Proofs.Registry.Endpoints
import ControlPlane.Proofs.Plane.Triple
import ControlPlane.Proofs.Registry.Described
import ControlPlane.Proofs.Registry.Operations
import ControlPlane.Proofs.Index.Rows
import ControlPlane.Proofs.Index.Stamps
import ControlPlane.Proofs.Registry.Runs
import ControlPlane.Proofs.Store.LeaseLife
import ControlPlane.Proofs.Store.AtRest
import ControlPlane.Proofs.Store.Entries
import ControlPlane.Proofs.Store.Transactions
import ControlPlane.Proofs.Store.LeaseClock
import ControlPlane.Proofs.Registry.Frame
import ControlPlane.Proofs.Reconcile.Pass
import ControlPlane.Proofs.Registry.Indexed
import ControlPlane.Proofs.Registry.Reconciled
import ControlPlane.Proofs.Registry.Listed
import ControlPlane.Proofs.Registry.Descriptors
import ControlPlane.Proofs.Registry.Race
import ControlPlane.Proofs.Configs.Calls
import ControlPlane.Proofs.Configs.Versions
import ControlPlane.Proofs.Configs.Mirror
import ControlPlane.Proofs.Configs.Runs
import ControlPlane.Proofs.Registry.Plugged
import ControlPlane.Proofs.Registry.Discovery
import ControlPlane.Proofs.Registry.Query
import ControlPlane.Proofs.Registry.Replug
import ControlPlane.Proofs.Registry.FailedPlug
import ControlPlane.Proofs.Plane.Refusal
import ControlPlane.Proofs.Registry.Refusals
import ControlPlane.Proofs.Plane.Requests
import ControlPlane.Proofs.Plane.Waiting
import ControlPlane.Proofs.Registry.FirstChange
import ControlPlane.Proofs.Plane.WatchStart
import ControlPlane.Proofs.Configs.FirstChange
import ControlPlane.Proofs.Key.Namespaces
import ControlPlane.Proofs.Reconcile.Reading
import ControlPlane.Proofs.Reconcile.Repair
import ControlPlane.Proofs.Reconcile.Report
import ControlPlane.Proofs.Registry.Deletion
import ControlPlane.Proofs.Registry.ClientAddresses
import ControlPlane.Proofs.Configs.Window
import ControlPlane.Proofs.Registry.Updates
import ControlPlane.Proofs.Registry.Unplugging
import ControlPlane.Proofs.Index.Patterns
import ControlPlane.Proofs.Key.CaseFolding
