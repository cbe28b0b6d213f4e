import Rollout.Deploy.Create
import Rollout.Deploy.Prune
import Rollout.Main
import Rollout.Store.Operation
import Rollout.Proofs.Store.Changes
import Rollout.Proofs.Store.Integrity
import Rollout.Proofs.Deploy.Sweep
import Rollout.Proofs.Store.Script
import Rollout.Proofs.Deploy.Routes
import Rollout.Proofs.Deploy.Creation
import Rollout.Proofs.Deploy.Revisions
import Rollout.Proofs.Run
import Rollout.Proofs.Deploy.InFlight
import Rollout.Proofs.Deploy.AuditTrail
import Rollout.Proofs.Deploy.RolledOut
import Rollout.Proofs.Deploy.Linkage
import Rollout.Proofs.Store.Slice
import Rollout.Proofs.Deploy.Slices
import Rollout.Proofs.Deploy.Separation
import Rollout.Proofs.Store.Keyed
import Rollout.Proofs.Store.Relational
import Rollout.Proofs.Store.Refinement
import Rollout.Proofs.Deploy.InstanceCount
import Rollout.Proofs.Deploy.Numbering
import Rollout.Proofs.Store.Seniority
import Rollout.Proofs.Deploy.Effect
import Rollout.Proofs.Deploy.Retention
import Rollout.Proofs.Deploy.Composition
import Rollout.Proofs.Deploy.RouteUnion
import Rollout.Proofs.Deploy.Admission
import Rollout.Proofs.Graph.Delivery
import Rollout.Proofs.Graph.Workload
import Rollout.Proofs.Text.Split
import Rollout.Proofs.ImageRef
import Rollout.Proofs.Image.Grammar
import Rollout.Proofs.Image.Spelling
import Rollout.Proofs.Image.Location
import Rollout.Proofs.Graph.Digests
import Rollout.Proofs.Config.Coverage
import Rollout.Proofs.Graph.CacheKeys
import Rollout.Proofs.Graph.WireForm
import Rollout.Proofs.Store.Passage
import Rollout.Proofs.Text.Decimal
import Rollout.Proofs.Time.Calendar
import Rollout.Proofs.Time.Rfc3339
import Rollout.Proofs.Json.Normal
import Rollout.Proofs.Record.RoundTrip
import Rollout.Proofs.Yaml.Plain
import Rollout.Proofs.Yaml.Folding
import Rollout.Proofs.Yaml.Lines
import Rollout.Proofs.Yaml.Entries
import Rollout.Proofs.Yaml.Standing
import Rollout.Proofs.Yaml.Values
import Rollout.Proofs.Yaml.Block
import Rollout.Proofs.Config.Initial
import Rollout.Proofs.Deploy.AllApps
import Rollout.Proofs.ProcessType
import Rollout.Proofs.Image.Presence
import Rollout.Proofs.Json.Text
import Rollout.Proofs.Ports
import Rollout.Proofs.Graph.Environment
import Rollout.Proofs.Store.Listings
import Rollout.Proofs.Text.Trim
import Rollout.Proofs.ProcessName
import Rollout.Proofs.Text.Unsigned
import Rollout.Proofs.Json.Numeral
import Rollout.Proofs.Sequence
import Rollout.Proofs.DeclaredPort
import Rollout.Proofs.Text.Bytes
import Rollout.Proofs.Environment
import Rollout.Proofs.Config.Settings
