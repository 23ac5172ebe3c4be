import Workload.Codec.Command
import Workload.Codec.Quantity
import Workload.Codec.VolumeTable
import Workload.Ecs.Task
import Workload.Json.Printer
import Workload.Model.Order
import Workload.Warning

/-! From groups to task definitions. -/
namespace Workload.Ecs

def defaultIndent : Nat := 4

/-- What the containers say about a mode of the task. -/
inductive Agreement where
  /-- No container, or a first container without a mode. -/
  | unset
  | agreed (mode : String)
  | disagreed
deriving DecidableEq

def agreement : List (Option String) → Agreement
  | [] | none :: _ => .unset
  | some mode :: rest => if rest.all (· == some mode) then .agreed mode else .disagreed

/-- The host's mode if the group asks for it, otherwise the one that all containers share. -/
def taskMode (host : Bool) (modes : List (Option String)) : Option String :=
  if host then some "host"
  else match agreement modes with
    | .agreed mode => some mode
    | .unset | .disagreed => none

def modeWarnings (host : Bool) (modes : List (Option String)) : List Warning :=
  if !host && agreement modes == .disagreed then [.ecsMode] else []

def CheckDefinition.ofChecks? (checks : List HealthCheck) : Option CheckDefinition := do
  let check ← checks.find? (!·.isHttp)
  let command ← check.execCommand?
  return {
    command := Command.toTest command
    interval := check.interval.map fun n => .int n.toUInt64
    timeout := check.timeout.map fun n => .int n.toUInt64
    retries := check.failureThreshold.map fun n => .int n.toUInt64 }

/-- An entry such as `name:ro`; what stands between the first colon and the mode is lost. -/
def VolumeFrom.ofText (s : String) : VolumeFrom where
  sourceContainer := String.ofList (Text.beforeFirst ':' s.toList)
  readOnly := (Text.dropEnding? ":ro" s.toList).isSome

def Port.ofMapping (p : PortMapping) : Port where
  hostPort := if 0 < p.hostPort then some (.int p.hostPort.toUInt64) else none
  containerPort := .int p.containerPort.toUInt64
  protocol := some p.protocol.name
  name := p.name

def mount (table : VolumeTable) : List Volume → List MountPoint × VolumeTable
  | [] => ([], table)
  | v :: vs =>
    let (name, table) := table.register v
    let (points, table) := mount table vs
    (⟨name, v.container, v.readOnly⟩ :: points, table)

def ContainerDefinition.ofContainer (c : Container) (mountPoints : List MountPoint) :
    ContainerDefinition where
  command := (c.command.map Command.split).getD []
  cpu := c.cpuShares.map .int
  dnsServers := c.dns
  dnsSearchDomains := c.dnsSearch
  dockerLabels := c.labels.map .text
  entryPoint := (c.entrypoint.map Command.split).getD []
  environment := c.environment.entries.map fun (name, value) => { name, value := .text value }
  environmentFiles := c.envFiles.map fun value => { value }
  essential := if c.essential then some true else none
  healthCheck := CheckDefinition.ofChecks? c.healthChecks
  hostname := c.hostname
  image := c.image.getD ""
  links := c.links
  logConfiguration := c.logging.map fun l => { driver := l.driver, options := l.options.map .text }
  memory := some (.int (Memory.toMebibytes c.memory))
  mountPoints
  name := c.name
  portMappings := c.ports.map Port.ofMapping
  privileged := c.privileged
  user := c.user
  volumesFrom := c.volumesFrom.map VolumeFrom.ofText
  workingDirectory := c.workingDir

def define (table : VolumeTable) : List Container → List ContainerDefinition × VolumeTable
  | [] => ([], table)
  | c :: cs =>
    let (points, table) := mount table c.volumes
    let (definitions, table) := define table cs
    (.ofContainer c points :: definitions, table)

def TaskVolume.ofEntry (name : String) (host : Option String) : TaskVolume :=
  { name, host := host.map fun path => { sourcePath := some path } }

def TaskDefinition.ofGroup (g : Group) : TaskDefinition :=
  let (containerDefinitions, table) := define .empty g.containers
  { family := g.name.getD ""
    networkMode := taskMode g.hostNetwork (g.containers.map (·.networkMode))
    pidMode := taskMode g.hostPid (g.containers.map (·.pid))
    containerDefinitions
    volumes := table.entries.entries.map fun (name, host) => .ofEntry name host
    tags := g.labels.entries.map fun (key, value) => { key, value } }

def droppedFields (c : Container) : List String :=
  List.filterMap (fun (field, present) => if present then some field else none) [
    ("build", c.build.isSome),
    ("expose", !c.expose.isEmpty),
    ("networks", !c.networks.isEmpty),
    ("pull_policy", c.pullPolicy.isSome),
    ("stop_signal", c.stopSignal.isSome),
    ("host_ip", c.ports.any (·.hostIp.isSome))]

def containerWarnings (c : Container) : List Warning :=
  (droppedFields c).map (.ecsField c.name) ++
    (c.healthChecks.takeWhile (·.isHttp)).map fun _ => .ecsHttpProbe c.name

def warnings (g : Group) : List Warning :=
  g.containers.flatMap containerWarnings ++
    modeWarnings g.hostNetwork (g.containers.map (·.networkMode)) ++
    modeWarnings g.hostPid (g.containers.map (·.pid))

/-- The task definition of a group in canonical order. -/
def emit (indent : Nat) (g : Group) : String :=
  (TaskDefinition.ofGroup g.canonical).toJson.pretty indent

end Workload.Ecs
