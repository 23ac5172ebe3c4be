import Workload.Main
import Workload.Model.Record
import Workload.Proofs.Dict
import Workload.Proofs.Order
import Workload.Proofs.Scalar
import Workload.Proofs.Text
import Workload.Proofs.Traverse
import Workload.Proofs.Volume
import Workload.Proofs.VolumeTable
import Workload.Proofs.Ecs.RoundTrip
import Workload.Proofs.Port
import Workload.Proofs.Duration
import Workload.Proofs.Shape
import Workload.Proofs.Build
import Workload.Proofs.Compose.RoundTrip
import Workload.Proofs.Shuffle
import Workload.Proofs.Ecs.Shuffle
import Workload.Proofs.Kube.Ingest
import Workload.Proofs.Kube.Shuffle
import Workload.Proofs.Compose.Shuffle
import Workload.Proofs.Document
import Workload.Proofs.VolumeTable.Run
import Workload.Proofs.Ecs.Volumes
import Workload.Proofs.Written
import Workload.Proofs.Yaml.Alike
import Workload.Proofs.Yaml.Scalar
import Workload.Proofs.Blame
import Workload.Proofs.Compose.Form
import Workload.Proofs.Kube.Form
import Workload.Proofs.Ecs.Form
import Workload.Proofs.Lenient
import Workload.Proofs.Port.Decoded
import Workload.Proofs.VolumeTable.Inner
import Workload.Proofs.Ecs.Mode
import Workload.Proofs.Checks
import Workload.Proofs.Script.Flags
import Workload.Proofs.Ingested
import Workload.Proofs.Modes
import Workload.Proofs.Ecs.Stable
import Workload.Proofs.Quoted
import Workload.Proofs.Compose.Quoted
import Workload.Proofs.Ecs.Quoted
import Workload.Proofs.Document.Quoted
import Workload.Proofs.Spelling
import Workload.Proofs.Compose.Spelling
import Workload.Proofs.Quantity
import Workload.Proofs.Containerwise
import Workload.Proofs.Port.Grammar
import Workload.Proofs.Ecs.VolumeNames
import Workload.Proofs.Canonical
import Workload.Proofs.Finish
import Workload.Proofs.Pairs
import Workload.Proofs.Command
import Workload.Proofs.Kube.Probe
import Workload.Proofs.Json.Record
import Workload.Proofs.Record
import Workload.Proofs.Script.Block
import Workload.Proofs.Script.Lines
import Workload.Proofs.Registry
import Workload.Proofs.VolumeTable.Search
