import InstancedZones.Action
import InstancedZones.Blueprint
import InstancedZones.Cadence
import InstancedZones.Datum
import InstancedZones.Decimal.Binary
import InstancedZones.Decimal.Shortest
import InstancedZones.Event
import InstancedZones.Fault
import InstancedZones.FileFault
import InstancedZones.Identity
import InstancedZones.Instance
import InstancedZones.Keystream
import InstancedZones.LogFilter.Basic
import InstancedZones.LogFilter.Directive
import InstancedZones.LogFilter.Field
import InstancedZones.LogFilter.Threshold
import InstancedZones.Path
import InstancedZones.Position
import InstancedZones.Proofs.Admission
import InstancedZones.Proofs.Allocation
import InstancedZones.Proofs.BackReference
import InstancedZones.Proofs.Binding
import InstancedZones.Proofs.Closing
import InstancedZones.Proofs.ClosingOrder
import InstancedZones.Proofs.ClosingReport
import InstancedZones.Proofs.Collections
import InstancedZones.Proofs.Companions
import InstancedZones.Proofs.Consistency
import InstancedZones.Proofs.Constancy
import InstancedZones.Proofs.Course
import InstancedZones.Proofs.Decimals
import InstancedZones.Proofs.Destinations
import InstancedZones.Proofs.Driving
import InstancedZones.Proofs.Entering
import InstancedZones.Proofs.Expiry
import InstancedZones.Proofs.FileNames
import InstancedZones.Proofs.FreeIdentity
import InstancedZones.Proofs.Identities
import InstancedZones.Proofs.Independence
import InstancedZones.Proofs.Keeping
import InstancedZones.Proofs.Lifetime
import InstancedZones.Proofs.Membership
import InstancedZones.Proofs.MemoryWorld
import InstancedZones.Proofs.Merging
import InstancedZones.Proofs.Numerals
import InstancedZones.Proofs.Party
import InstancedZones.Proofs.Punctuality
import InstancedZones.Proofs.QuotedText
import InstancedZones.Proofs.Readiness
import InstancedZones.Proofs.ResolvedTemplates
import InstancedZones.Proofs.Rhythm
import InstancedZones.Proofs.Rounding
import InstancedZones.Proofs.Run
import InstancedZones.Proofs.SettingsLayout
import InstancedZones.Proofs.Sheets
import InstancedZones.Proofs.Shift
import InstancedZones.Proofs.Shutdown
import InstancedZones.Proofs.Standing
import InstancedZones.Proofs.Teleporting
import InstancedZones.Proofs.TemplateRequests
import InstancedZones.Proofs.Unanimity
import InstancedZones.Proofs.Whereabouts
import InstancedZones.Proofs.WrittenLines
import InstancedZones.Proofs.WrittenSettings
import InstancedZones.Proofs.WrittenValues
import InstancedZones.Refusal
import InstancedZones.Registry.Basic
import InstancedZones.Registry.Lifecycle
import InstancedZones.Registry.Membership
import InstancedZones.Registry.Teleport
import InstancedZones.Service.Basic
import InstancedZones.Service.Command
import InstancedZones.Service.Request
import InstancedZones.Service.Sweep
import InstancedZones.Settings.Basic
import InstancedZones.Settings.Document
import InstancedZones.Settings.Reading
import InstancedZones.Settings.Writing
import InstancedZones.Template
import InstancedZones.Text.Alphabetic
import InstancedZones.Text.Alphanumeric
import InstancedZones.Text.Blank
import InstancedZones.Text.Code
import InstancedZones.Text.CodeRanges
import InstancedZones.Text.Digits
import InstancedZones.Text.Hidden
import InstancedZones.Text.Pattern.Basic
import InstancedZones.Text.Pattern.Depth
import InstancedZones.Text.Pattern.Group
import InstancedZones.Text.Pattern.Part
import InstancedZones.Text.Pattern.Set
import InstancedZones.Text.Visible
import InstancedZones.Ticker
import InstancedZones.Time.Duration
import InstancedZones.Time.Timestamp
import InstancedZones.Toml.Document
import InstancedZones.Toml.Layout
import InstancedZones.Toml.Library
import InstancedZones.Toml.Number
import InstancedZones.Toml.Quoted
import InstancedZones.Toml.Table
import InstancedZones.Toml.Value
import InstancedZones.Toml.Writer
import InstancedZones.World.Basic
import InstancedZones.World.FileTree
import InstancedZones.World.Memory
