import Provision.Command.Options
import Provision.Command.Run
import Provision.Compatibility
import Provision.Deployment
import Provision.Duplicates
import Provision.Editor
import Provision.Fault
import Provision.Form
import Provision.Headroom
import Provision.Http
import Provision.Json.Codec
import Provision.Json.Numbers
import Provision.Json.Printer
import Provision.Json.Reader
import Provision.Json.Record
import Provision.Json.Strings
import Provision.Json.Value
import Provision.Kubernetes.Decode
import Provision.Kubernetes.Object
import Provision.Kubernetes.Schema
import Provision.Kubernetes.Shape
import Provision.Main
import Provision.Node
import Provision.Number.Binary
import Provision.Number.Digits
import Provision.Number.Natural
import Provision.Number.Numeral
import Provision.Proofs.ClusterCapacity
import Provision.Proofs.CoreQuantities
import Provision.Proofs.DecimalDoubles
import Provision.Proofs.DeployRules
import Provision.Proofs.DoubleBits
import Provision.Proofs.DoubleOrder
import Provision.Proofs.DoubleRounding
import Provision.Proofs.DoubleText
import Provision.Proofs.DuplicateKeys
import Provision.Proofs.EditCredit
import Provision.Proofs.ExhaustedCapacity
import Provision.Proofs.FormRuns
import Provision.Proofs.FractionalMemory
import Provision.Proofs.JsonLeaves
import Provision.Proofs.JsonText
import Provision.Proofs.MemoryDoubles
import Provision.Proofs.MemoryGrammar
import Provision.Proofs.MemoryHeadroom
import Provision.Proofs.MemoryLimit
import Provision.Proofs.MemoryRefusals
import Provision.Proofs.MemoryUnits
import Provision.Proofs.NearestDoubles
import Provision.Proofs.NodeListings
import Provision.Proofs.Numerals
import Provision.Proofs.PowerDoubles
import Provision.Proofs.PrintedTables
import Provision.Proofs.QuantitySpacing
import Provision.Proofs.QuotaFormats
import Provision.Proofs.RecordForms
import Provision.Proofs.ReportAgreement
import Provision.Proofs.ReportInputs
import Provision.Proofs.ResourceIndependence
import Provision.Proofs.ScheduledPods
import Provision.Proofs.ShortestDigits
import Provision.Proofs.SignedNumerals
import Provision.Proofs.SliderRuns
import Provision.Proofs.SnappedLimits
import Provision.Proofs.SnapshotDocuments
import Provision.Proofs.SnapshotEncoding
import Provision.Proofs.SnapshotReading
import Provision.Proofs.SnapshotVariations
import Provision.Proofs.StorageRules
import Provision.Proofs.TimestampText
import Provision.Proofs.Trimming
import Provision.Proofs.UnchangedForms
import Provision.Proofs.ValidationAgreement
import Provision.Proofs.WholeMemory
import Provision.Quantity.Cpu
import Provision.Quantity.Memory
import Provision.Quantity.Reason
import Provision.Quantity.Scale
import Provision.Quota
import Provision.Readiness
import Provision.Report
import Provision.Report.Amount
import Provision.Report.Cluster
import Provision.Report.Compatibility
import Provision.Report.Headroom
import Provision.Report.Table
import Provision.Report.Terminal
import Provision.Report.Validation
import Provision.Reservation
import Provision.Saturating
import Provision.Settings
import Provision.Sliders
import Provision.Snapshot.Codec
import Provision.Snapshot.Decode
import Provision.Snapshot.Document
import Provision.Snapshot.Encode
import Provision.Storage
import Provision.Text.Blank
import Provision.Text.Columns
import Provision.Text.Combining
import Provision.Text.Emoji
import Provision.Text.Quoted
import Provision.Text.Ranges
import Provision.Text.Unprintable
import Provision.Text.Width
import Provision.Timestamp
import Provision.Toml.Document
import Provision.Toml.Moment
import Provision.Toml.Scalar
import Provision.Toml.Text
import Provision.Toml.Value
import Provision.Traversal
import Provision.Url
