import PluginKit.Abi
import PluginKit.Config.Block
import PluginKit.Config.Decode
import PluginKit.Config.Item
import PluginKit.Config.Schema
import PluginKit.Daemon
import PluginKit.Failure
import PluginKit.Files
import PluginKit.Graphite.Line
import PluginKit.Graphite.Link
import PluginKit.Graphite.Plugin
import PluginKit.Header.Layout
import PluginKit.Header.Version
import PluginKit.Load
import PluginKit.Log.Directive
import PluginKit.Log.Filter
import PluginKit.Log.Level
import PluginKit.Log.Logger
import PluginKit.Log.Pattern
import PluginKit.Main
import PluginKit.Metadata
import PluginKit.Number.Double
import PluginKit.Number.Hex
import PluginKit.Number.Layout
import PluginKit.Number.Shortest
import PluginKit.Number.Word
import PluginKit.Path
import PluginKit.Plugin.Basic
import PluginKit.Plugin.Error
import PluginKit.Plugin.Scripted
import PluginKit.Plugin.Session
import PluginKit.Probe.Command
import PluginKit.Probe.Resolution
import PluginKit.Probe.Run
import PluginKit.Probe.Settings
import PluginKit.Probe.SettingsText
import PluginKit.Probe.Store
import PluginKit.Text.Alphanumeric
import PluginKit.Text.Bytes
import PluginKit.Text.CharClass
import PluginKit.Text.Json
import PluginKit.Text.Quoted
import PluginKit.Text.Terminal
import PluginKit.Text.Unprintable
import PluginKit.Text.Utf8
import PluginKit.Time
import PluginKit.Toml.Document
import PluginKit.Toml.Scalar
import PluginKit.Toml.Text
import PluginKit.Toml.Value
import PluginKit.Value
import PluginKit.ValueList.Received
import PluginKit.ValueList.Submission
import PluginKit.Proofs.Graphite.Delivery
import PluginKit.Proofs.Metadata
import PluginKit.Proofs.Session.Containment
import PluginKit.Proofs.Session.Custody
import PluginKit.Proofs.Session.Race
import PluginKit.Proofs.Session.Registering
import PluginKit.Proofs.Session.Release
import PluginKit.Proofs.Session.Report
import PluginKit.Proofs.Text.Field
import PluginKit.Proofs.Text.Lines
import PluginKit.Proofs.Time
import PluginKit.Proofs.Time.Order
import PluginKit.Proofs.Time.RoundTrip
import PluginKit.Proofs.Time.Rounding
import PluginKit.Proofs.Number.Double
import PluginKit.Proofs.ValueList.RoundTrip
import PluginKit.Proofs.ValueList.Submission
import PluginKit.Proofs.ValueList.Problems
import PluginKit.Proofs.Probe.Precedence
import PluginKit.Proofs.ValueList.Relay
import PluginKit.Proofs.Config.Gather
import PluginKit.Proofs.Config.Record
import PluginKit.Proofs.Config.Rearranged
import PluginKit.Proofs.Config.FieldByField
import PluginKit.Proofs.Config.Integer
import PluginKit.Proofs.Config.Inventory
import PluginKit.Proofs.Graphite.Nodes
import PluginKit.Proofs.Header.Alias
import PluginKit.Proofs.Header.Release
import PluginKit.Proofs.Header.Search
import PluginKit.Proofs.Probe.Validated
import PluginKit.Proofs.Toml.Text
import PluginKit.Proofs.Toml.Document
import PluginKit.Proofs.Probe.SettingsText
import PluginKit.Proofs.Files
import PluginKit.Proofs.Probe.Store
import PluginKit.Proofs.Probe.Visit
import PluginKit.Proofs.Probe.Agreement
import PluginKit.Proofs.Config.Located
import PluginKit.Proofs.ValueList.Rates
import PluginKit.Proofs.Graphite.Paths
import PluginKit.Proofs.Metadata.Calls
import PluginKit.Proofs.Config.Reading
import PluginKit.Proofs.Probe.Check
import PluginKit.Proofs.Path
import PluginKit.Proofs.Probe.Roots
import PluginKit.Proofs.Probe.CompilerFlags
