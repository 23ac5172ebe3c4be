import Workload.Codec.Command
import Workload.Codec.Pairs
import Workload.Codec.Port
import Workload.Codec.Quantity
import Workload.Codec.VolumeTable
import Workload.Kube.Pod
import Workload.Model.Finish

/-! From pod manifests to groups. -/
namespace Workload.Kube

def EnvVar.toPair (x : EnvVar) : Except FieldError (String × String) := do
  return (x.name, ← x.value.toText)

def ContainerPort.toMapping (p : ContainerPort) : Except FieldError PortMapping := do
  let hostPort ← p.hostPort.mapM Scalar.toUInt16
  let containerPort ← p.containerPort.toUInt16
  let protocol ← Protocol.parse (p.protocol.getD "")
  return {
    hostIp := p.hostIp.bind nonEmpty, hostPort := hostPort.getD 0, containerPort, protocol
    name := p.name }

def joinPaths (host sub : String) : String :=
  String.ofList <| Text.dropEndWhile (· == '/') host.toList ++ '/' :: sub.toList.dropWhile (· == '/')

/-- A mount of a volume without a host directory has no host path, whatever its path inside. -/
def VolumeMount.toVolume (table : VolumeTable) (m : VolumeMount) : Volume where
  host := (table.resolve m.name).map fun host =>
    match m.subPath.bind nonEmpty with
    | some sub => joinPaths host sub
    | none => host
  container := m.mountPath
  readOnly := m.readOnly

def isPortName (s : String) : Bool := !s.isEmpty && !s.toList.all Char.isDigit

/-- The port of a probe, by number or by the name of the first declared port that has it. -/
def probePort (declared : List ContainerPort) (port : Scalar) : Except FieldError UInt16 :=
  match port with
  | .text name =>
    if isPortName name then
      match declared.find? (·.name == some name) with
      | some p => p.containerPort.toUInt16
      | none => .error (.unknownPortName name)
    else port.toUInt16
  | _ => port.toUInt16

def HttpGet.toProbe (declared : List ContainerPort) (h : HttpGet) : Except FieldError Probe := do
  return .http {
    path := h.path.getD ""
    port := ← probePort declared h.port
    host := h.host
    scheme := h.scheme
    headers := Dict.ofList (h.headers.map fun x => (x.name, x.value)) }

/-- A command that is not empty comes before an HTTP request. -/
def LivenessProbe.probe? (declared : List ContainerPort) (p : LivenessProbe) :
    Except FieldError (Option Probe) :=
  match p.exec.bind Command.join with
  | some command => .ok (some (.exec command))
  | none => p.httpGet.mapM (·.toProbe declared)

def LivenessProbe.toCheck? (declared : List ContainerPort) (p : LivenessProbe) :
    Except FieldError (Option HealthCheck) := do
  match ← p.probe? declared with
  | none => return none
  | some probe =>
    return some {
      probe
      interval := ← p.periodSeconds.mapM Scalar.toUInt32
      timeout := ← p.timeoutSeconds.mapM Scalar.toUInt32
      failureThreshold := ← p.failureThreshold.mapM Scalar.toUInt32 }

def limit (quantity : String → Except FieldError UInt64) (s : Option Scalar) :
    Except FieldError (Option UInt64) :=
  s.mapM fun s => do quantity (← s.toText)

def Pod.volumeTable (p : Pod) : VolumeTable :=
  p.volumes.foldl (fun table v => table.insert v.name v.hostPath) .empty

def ContainerSpec.toContainer (table : VolumeTable) (s : ContainerSpec) :
    Except ConversionError Container := do
  let field {α : Type} (field : String) (r : Except FieldError α) :=
    inField formatName s.name field r
  let environment ← field "env" (s.env.mapM EnvVar.toPair)
  let ports ← field "ports" (s.ports.mapM ContainerPort.toMapping)
  let check ← field "livenessProbe" (s.livenessProbe.mapM (·.toCheck? s.ports))
  let memory ← field "resources.limits.memory" (limit Quantity.memory (s.limits.find? "memory"))
  let cpu ← field "resources.limits.cpu" (limit Quantity.cpu (s.limits.find? "cpu"))
  let security := s.securityContext.getD {}
  let user ← field "securityContext.runAsUser" (security.runAsUser.mapM Scalar.toText)
  return {
    name := s.name
    image := s.image.bind nonEmpty
    command := Command.join s.args
    entrypoint := Command.join s.command
    workingDir := s.workingDir
    user
    privileged := security.privileged.getD false
    cpuShares := cpu.filter (0 < ·)
    memory
    environment := Dict.ofList environment
    ports
    volumes := s.volumeMounts.map (·.toVolume table)
    healthChecks := check.join.toList
    pullPolicy := s.imagePullPolicy }

def Pod.toGroup (p : Pod) : Except ConversionError Group := do
  match p.kind with
  | some kind => if kind ≠ "Pod" then throw (.structural formatName (.wrongKind kind))
  | none => pure ()
  let labels ← (Pairs.texts p.labels).mapError fun e => .structural formatName (.groupLabel e)
  let containers ← p.containers.mapM fun s => do
    let c ← s.toContainer p.volumeTable
    return { c with hostname := p.hostname }
  Group.finish formatName {
    name := p.name.bind nonEmpty
    containers
    labels
    hostNetwork := p.hostNetwork
    hostPid := p.hostPid }

def ingest (text : String) : Except ConversionError Group :=
  match Pod.parse? text with
  | some p => p.toGroup
  | none => .error (.structural formatName .unparsable)

end Workload.Kube
