import MeshBridge.Address
import MeshBridge.Attribute.Json
import MeshBridge.Attribute.Value
import MeshBridge.Attribute.Wire
import MeshBridge.Bus.Basic
import MeshBridge.Bus.Network
import MeshBridge.Capability.Access
import MeshBridge.Capability.Basic
import MeshBridge.Capability.Json
import MeshBridge.Capability.Verbs
import MeshBridge.CommandLine.Arguments
import MeshBridge.CommandLine.Disk
import MeshBridge.CommandLine.Program
import MeshBridge.Config.Basic
import MeshBridge.Config.Document
import MeshBridge.Config.Load
import MeshBridge.Coordinator.AddressCache
import MeshBridge.Coordinator.Basic
import MeshBridge.Coordinator.Call
import MeshBridge.Coordinator.Commands
import MeshBridge.Coordinator.Lifecycle
import MeshBridge.Coordinator.Pending
import MeshBridge.Coordinator.Reports
import MeshBridge.Coordinator.Run
import MeshBridge.Correction.Basic
import MeshBridge.Correction.Json
import MeshBridge.Correction.Table
import MeshBridge.Decimal.Binary64
import MeshBridge.Decimal.Layout
import MeshBridge.Decimal.Numeral
import MeshBridge.Decimal.Shortest
import MeshBridge.Device.Json
import MeshBridge.Device.Registry
import MeshBridge.Device.Request
import MeshBridge.Device.Tree
import MeshBridge.Event
import MeshBridge.Event.Json
import MeshBridge.Fault
import MeshBridge.Gateway.Basic
import MeshBridge.Gateway.Run
import MeshBridge.Gateway.Simulation
import MeshBridge.Json.Basic
import MeshBridge.Json.Reader
import MeshBridge.Json.Record
import MeshBridge.Json.Writer
import MeshBridge.LittleEndian
import MeshBridge.Main
import MeshBridge.Mqtt.Bridge
import MeshBridge.Mqtt.Message
import MeshBridge.Mqtt.SetRequest
import MeshBridge.Mqtt.Snapshot
import MeshBridge.Proofs.Capability.Readings
import MeshBridge.Proofs.Coordinator.Accounting
import MeshBridge.Proofs.Coordinator.Addresses
import MeshBridge.Proofs.Coordinator.Failures
import MeshBridge.Proofs.Coordinator.Frames
import MeshBridge.Proofs.Coordinator.Outcomes
import MeshBridge.Proofs.Coordinator.Past
import MeshBridge.Proofs.Coordinator.Reach
import MeshBridge.Proofs.Coordinator.Recording
import MeshBridge.Proofs.Coordinator.Replay
import MeshBridge.Proofs.Coordinator.Reported
import MeshBridge.Proofs.Coordinator.Sending
import MeshBridge.Proofs.Coordinator.Slots
import MeshBridge.Proofs.Coordinator.Stages
import MeshBridge.Proofs.Coordinator.Statuses
import MeshBridge.Proofs.Coordinator.Turns
import MeshBridge.Proofs.Correction.Evaluation
import MeshBridge.Proofs.Device.Profile
import MeshBridge.Proofs.Device.Registry
import MeshBridge.Proofs.Gateway.Spurious
import MeshBridge.Radio.Basic
import MeshBridge.Radio.Frame
import MeshBridge.Radio.Recorded
import MeshBridge.Radio.Simulated
import MeshBridge.Scheduler
import MeshBridge.Store.Basic
import MeshBridge.Store.Broken
import MeshBridge.Store.File
import MeshBridge.Store.Flat
import MeshBridge.Store.Memory
import MeshBridge.Table
import MeshBridge.Text.Hex
import MeshBridge.Text.Printable
import MeshBridge.Text.Quoted
import MeshBridge.Text.Utf8
import MeshBridge.Toml.Basic
import MeshBridge.Toml.Datetime
import MeshBridge.Toml.Normal
import MeshBridge.Toml.Reader
import MeshBridge.Toml.Scalar
import MeshBridge.Toml.Text
import MeshBridge.Toml.Tree
import MeshBridge.Toml.Writer
import MeshBridge.Proofs.Bus.Growth
import MeshBridge.Proofs.Bus.Rules
import MeshBridge.Proofs.Bus.Delivery
import MeshBridge.Proofs.Bus.Bounds
import MeshBridge.Proofs.Gateway.Activity
import MeshBridge.Proofs.Gateway.Watching
import MeshBridge.Proofs.Gateway.Series
import MeshBridge.Proofs.Gateway.Requests
import MeshBridge.Proofs.Coordinator.Courses
import MeshBridge.Proofs.Gateway.Onlooking
import MeshBridge.Proofs.Mqtt.Topics
import MeshBridge.Proofs.Gateway.Telling
import MeshBridge.Store.Call
import MeshBridge.Proofs.Store.Rows
import MeshBridge.Proofs.Store.Agreement
import MeshBridge.Proofs.Correction.Inversion
import MeshBridge.Proofs.Gateway.Switching
import MeshBridge.Proofs.Coordinator.Changes
import MeshBridge.Proofs.Gateway.Nesting
import MeshBridge.Proofs.Gateway.Hearing
import MeshBridge.Proofs.Toml.Texts
import MeshBridge.Proofs.Toml.Scalars
import MeshBridge.Proofs.Toml.Tree
import MeshBridge.Proofs.Toml.Values
import MeshBridge.Proofs.Toml.Sections
import MeshBridge.Proofs.Toml.Document
import MeshBridge.Proofs.Toml.Normal
import MeshBridge.Proofs.Config.RoundTrip
import MeshBridge.Proofs.Bus.Tables
import MeshBridge.Proofs.Bus.Interleaving
import MeshBridge.Proofs.Store.Keeping
import MeshBridge.Proofs.Coordinator.Saved
import MeshBridge.Proofs.Table
import MeshBridge.Proofs.Device.Filed
import MeshBridge.Proofs.Coordinator.Filed
import MeshBridge.Proofs.Mqtt.Snapshots
import MeshBridge.Proofs.Text.Utf8
import MeshBridge.Proofs.Text.Digits
import MeshBridge.Proofs.Json.Readers
import MeshBridge.Proofs.Json.Alike
import MeshBridge.Proofs.Device.RoundTrip
import MeshBridge.Proofs.Event.RoundTrip
import MeshBridge.Proofs.Mqtt.Images
import MeshBridge.Proofs.Toml.Layout
import MeshBridge.Proofs.Attribute.Wire
import MeshBridge.Proofs.Capability.Kinds
import MeshBridge.Proofs.Capability.Saturation
import MeshBridge.Proofs.Capability.Writing
import MeshBridge.Proofs.Correction.Clamping
import MeshBridge.Proofs.Gateway.Writing
import MeshBridge.Proofs.Gateway.Dimming
import MeshBridge.Proofs.Correction.Directions
import MeshBridge.Proofs.Correction.Chains
import MeshBridge.Proofs.Gateway.Heard
import MeshBridge.Proofs.Gateway.Coloring
import MeshBridge.Proofs.Decimal.Digits
import MeshBridge.Proofs.Decimal.Whole
import MeshBridge.Proofs.Correction.Breaking
import MeshBridge.Proofs.Correction.Registration
import MeshBridge.Proofs.Correction.Doubling
import MeshBridge.Proofs.Gateway.Percents
import MeshBridge.Proofs.Correction.Admission
import MeshBridge.Proofs.Correction.Precedence
import MeshBridge.Proofs.Correction.Overrides
import MeshBridge.Proofs.Gateway.Configuring
import MeshBridge.Proofs.Coordinator.Commuting
import MeshBridge.Proofs.Text.Hex
import MeshBridge.Proofs.Json.Texts
import MeshBridge.Proofs.Address.Grammar
import MeshBridge.Proofs.Address.RoundTrip
import MeshBridge.Proofs.Mqtt.Commands
import MeshBridge.Proofs.Mqtt.Attachment
import MeshBridge.Proofs.History
import MeshBridge.Proofs.Coordinator.AddressMap
import MeshBridge.Proofs.Coordinator.Numbering
import MeshBridge.Proofs.Coordinator.Sweeping
import MeshBridge.Proofs.Device.Holders
import MeshBridge.Proofs.Device.Paths
import MeshBridge.Proofs.Device.Attributes
