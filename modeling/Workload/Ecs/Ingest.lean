import Workload.Codec.Command
import Workload.Codec.Pairs
import Workload.Codec.Port
import Workload.Codec.Quantity
import Workload.Codec.VolumeTable
import Workload.Ecs.Task
import Workload.Json.Reader
import Workload.Model.Finish

/-! From task definitions to groups. -/
namespace Workload.Ecs

def Variable.toPair (x : Variable) : Except FieldError (String × String) := do
  return (x.name, ← x.value.toText)

def Port.toMapping (p : Port) : Except FieldError PortMapping := do
  let hostPort ← p.hostPort.mapM Scalar.toUInt16
  let containerPort ← p.containerPort.toUInt16
  let protocol ← Protocol.parse (p.protocol.getD "")
  return { hostPort := hostPort.getD 0, containerPort, protocol, name := p.name }

def MountPoint.toVolume (table : VolumeTable) (m : MountPoint) : Volume where
  host := table.resolve m.sourceVolume
  container := m.containerPath
  readOnly := m.readOnly

def VolumeFrom.toText (f : VolumeFrom) : String :=
  if f.readOnly then f.sourceContainer ++ ":ro" else f.sourceContainer

def LogConfiguration.toLogging (l : LogConfiguration) : Except FieldError Logging := do
  return { driver := l.driver, options := ← Pairs.texts l.options }

def CheckDefinition.toCheck? (h : CheckDefinition) : Except FieldError (Option HealthCheck) := do
  match Command.ofTest h.command with
  | none => return none
  | some command =>
    return some {
      probe := .exec command
      interval := ← h.interval.mapM Scalar.toUInt32
      timeout := ← h.timeout.mapM Scalar.toUInt32
      failureThreshold := ← h.retries.mapM Scalar.toUInt32 }

/-- The volumes of the task by name; of those with one name the last counts. -/
def TaskDefinition.volumeTable (t : TaskDefinition) : VolumeTable :=
  t.volumes.foldl (fun table v => table.insert v.name (v.host.bind (·.sourcePath))) .empty

def ContainerDefinition.toContainer (table : VolumeTable) (d : ContainerDefinition) :
    Except ConversionError Container := do
  let field {α : Type} (field : String) (r : Except FieldError α) :=
    inField formatName d.name field r
  let environment ← field "environment" (d.environment.mapM Variable.toPair)
  let labels ← field "dockerLabels" (Pairs.texts d.dockerLabels)
  let ports ← field "portMappings" (d.portMappings.mapM Port.toMapping)
  let memory ← field "memory" (d.memory.mapM Scalar.toUInt64)
  let cpu ← field "cpu" (d.cpu.mapM Scalar.toUInt64)
  let logging ← field "logConfiguration" (d.logConfiguration.mapM LogConfiguration.toLogging)
  let check ← field "healthCheck" (d.healthCheck.mapM CheckDefinition.toCheck?)
  return {
    name := d.name
    image := nonEmpty d.image
    command := Command.join d.command
    entrypoint := Command.join d.entryPoint
    workingDir := d.workingDirectory
    user := d.user
    hostname := d.hostname
    privileged := d.privileged
    essential := d.essential.getD false
    cpuShares := cpu.filter (0 < ·)
    memory := some (Memory.ofMebibytes memory)
    environment := Dict.ofList environment
    envFiles := d.environmentFiles.map (·.value)
    labels
    dns := d.dnsServers
    dnsSearch := d.dnsSearchDomains
    ports
    volumes := d.mountPoints.map (·.toVolume table)
    volumesFrom := d.volumesFrom.map VolumeFrom.toText
    links := d.links
    logging
    healthChecks := check.join.toList }

/-- The mode of the task other than the host's, which every container gets. -/
def sharedMode (mode : Option String) : Option String := mode.filter (· != "host")

def TaskDefinition.toGroup (t : TaskDefinition) : Except ConversionError Group := do
  let containers ← t.containerDefinitions.mapM fun d => do
    let c ← d.toContainer t.volumeTable
    return { c with networkMode := sharedMode t.networkMode, pid := sharedMode t.pidMode }
  Group.finish formatName {
    name := nonEmpty t.family
    containers
    labels := Dict.ofList (t.tags.map fun tag => (tag.key, tag.value))
    hostNetwork := t.networkMode == some "host"
    hostPid := t.pidMode == some "host" }

def ingest (text : String) : Except ConversionError Group :=
  match (Json.parse? text).bind TaskDefinition.ofJson? with
  | some t => t.toGroup
  | none => .error (.structural formatName .unparsable)

end Workload.Ecs
