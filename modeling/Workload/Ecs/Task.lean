import Workload.Codec.Scalar
import Workload.Json.Record

/-! ECS task definitions as records, and their JSON form. -/
namespace Workload.Ecs

def formatName : String := "ecs"

structure Variable where
  name : String
  value : Scalar := .null

structure EnvironmentFile where
  value : String
  type : String := "s3"

structure LogConfiguration where
  driver : String := ""
  options : Dict Scalar := ∅

structure Port where
  hostPort : Option Scalar := none
  containerPort : Scalar := .null
  protocol : Option String := none
  name : Option String := none

structure MountPoint where
  sourceVolume : String
  containerPath : String
  readOnly : Bool := false
deriving DecidableEq

structure VolumeFrom where
  sourceContainer : String
  readOnly : Bool := false
deriving DecidableEq

structure CheckDefinition where
  command : List String := []
  interval : Option Scalar := none
  timeout : Option Scalar := none
  retries : Option Scalar := none

structure VolumeHost where
  sourcePath : Option String := none
deriving DecidableEq

structure TaskVolume where
  name : String
  host : Option VolumeHost := none
deriving DecidableEq

structure Tag where
  key : String
  value : String := ""
deriving DecidableEq

structure ContainerDefinition where
  command : List String := []
  cpu : Option Scalar := none
  dnsServers : List String := []
  dnsSearchDomains : List String := []
  dockerLabels : Dict Scalar := ∅
  entryPoint : List String := []
  environment : List Variable := []
  environmentFiles : List EnvironmentFile := []
  essential : Option Bool := none
  healthCheck : Option CheckDefinition := none
  hostname : Option String := none
  image : String := ""
  links : List String := []
  logConfiguration : Option LogConfiguration := none
  /-- The limit in MiB. -/
  memory : Option Scalar := none
  mountPoints : List MountPoint := []
  name : String := ""
  portMappings : List Port := []
  privileged : Bool := false
  user : Option String := none
  volumesFrom : List VolumeFrom := []
  workingDirectory : Option String := none

structure TaskDefinition where
  family : String := ""
  networkMode : Option String := none
  pidMode : Option String := none
  containerDefinitions : List ContainerDefinition := []
  volumes : List TaskVolume := []
  tags : List Tag := []

/-! Reading from JSON. What is made of the values of scalar fields is a parameter: a record fits its
form or not whatever they hold. -/
open Json

section Reading
variable (scalar? : Json → Option Scalar)

def Variable.ofJsonWith? (v : Json) : Option Variable := do
  let fs ← v.record? ["name", "value"]
  return {
    name := ← fs.required "name" string?
    value := ← fs.withDefault "value" scalar? .null }

def EnvironmentFile.ofJson? (v : Json) : Option EnvironmentFile := do
  let fs ← v.record? ["value", "type"]
  return {
    value := ← fs.required "value" string?
    type := ← fs.withDefault "type" string? "s3" }

def LogConfiguration.ofJsonWith? (v : Json) : Option LogConfiguration := do
  let fs ← v.record? ["logDriver", "options"]
  return {
    driver := ← fs.withDefault "logDriver" string? ""
    options := ← fs.dictOf "options" scalar? }

def Port.ofJsonWith? (v : Json) : Option Port := do
  let fs ← v.record? ["hostPort", "containerPort", "protocol", "name"]
  return {
    hostPort := ← fs.optional "hostPort" scalar?
    containerPort := ← fs.withDefault "containerPort" scalar? .null
    protocol := ← fs.optional "protocol" string?
    name := ← fs.optional "name" string? }

def MountPoint.ofJson? (v : Json) : Option MountPoint := do
  let fs ← v.record? ["sourceVolume", "containerPath", "readOnly"]
  return {
    sourceVolume := ← fs.required "sourceVolume" string?
    containerPath := ← fs.required "containerPath" string?
    readOnly := ← fs.flag "readOnly" }

def VolumeFrom.ofJson? (v : Json) : Option VolumeFrom := do
  let fs ← v.record? ["sourceContainer", "readOnly"]
  return {
    sourceContainer := ← fs.required "sourceContainer" string?
    readOnly := ← fs.flag "readOnly" }

def CheckDefinition.ofJsonWith? (v : Json) : Option CheckDefinition := do
  let fs ← v.record? ["command", "interval", "timeout", "retries"]
  return {
    command := ← fs.listOf "command" string?
    interval := ← fs.optional "interval" scalar?
    timeout := ← fs.optional "timeout" scalar?
    retries := ← fs.optional "retries" scalar? }

def VolumeHost.ofJson? (v : Json) : Option VolumeHost := do
  let fs ← v.record? ["sourcePath"]
  return { sourcePath := ← fs.optional "sourcePath" string? }

def TaskVolume.ofJson? (v : Json) : Option TaskVolume := do
  let fs ← v.record? ["name", "host"]
  return {
    name := ← fs.required "name" string?
    host := ← fs.optional "host" VolumeHost.ofJson? }

def Tag.ofJson? (v : Json) : Option Tag := do
  let fs ← v.record? ["key", "value"]
  return {
    key := ← fs.required "key" string?
    value := ← fs.withDefault "value" string? "" }

def ContainerDefinition.fieldNames : List String := [
  "command", "cpu", "dnsServers", "dnsSearchDomains", "dockerLabels", "entryPoint", "environment",
  "environmentFiles", "essential", "healthCheck", "hostname", "image", "links",
  "logConfiguration", "memory", "mountPoints", "name", "portMappings", "privileged", "user",
  "volumesFrom", "workingDirectory"]

def ContainerDefinition.ofJsonWith? (v : Json) : Option ContainerDefinition := do
  let fs ← v.record? fieldNames
  return {
    command := ← fs.listOf "command" string?
    cpu := ← fs.optional "cpu" scalar?
    dnsServers := ← fs.listOf "dnsServers" string?
    dnsSearchDomains := ← fs.listOf "dnsSearchDomains" string?
    dockerLabels := ← fs.dictOf "dockerLabels" scalar?
    entryPoint := ← fs.listOf "entryPoint" string?
    environment := ← fs.listOf "environment" (Variable.ofJsonWith? scalar?)
    environmentFiles := ← fs.listOf "environmentFiles" EnvironmentFile.ofJson?
    essential := ← fs.optional "essential" bool?
    healthCheck := ← fs.optional "healthCheck" (CheckDefinition.ofJsonWith? scalar?)
    hostname := ← fs.optional "hostname" string?
    image := ← fs.withDefault "image" string? ""
    links := ← fs.listOf "links" string?
    logConfiguration := ← fs.optional "logConfiguration" (LogConfiguration.ofJsonWith? scalar?)
    memory := ← fs.optional "memory" scalar?
    mountPoints := ← fs.listOf "mountPoints" MountPoint.ofJson?
    name := ← fs.withDefault "name" string? ""
    portMappings := ← fs.listOf "portMappings" (Port.ofJsonWith? scalar?)
    privileged := ← fs.flag "privileged"
    user := ← fs.optional "user" string?
    volumesFrom := ← fs.listOf "volumesFrom" VolumeFrom.ofJson?
    workingDirectory := ← fs.optional "workingDirectory" string? }

def TaskDefinition.fieldNames : List String :=
  ["family", "networkMode", "pidMode", "containerDefinitions", "volumes", "tags"]

def TaskDefinition.ofJsonWith? (v : Json) : Option TaskDefinition := do
  let fs ← v.record? fieldNames
  return {
    family := ← fs.withDefault "family" string? ""
    networkMode := ← fs.optional "networkMode" string?
    pidMode := ← fs.optional "pidMode" string?
    containerDefinitions := ← fs.listOf "containerDefinitions" (ContainerDefinition.ofJsonWith? scalar?)
    volumes := ← fs.listOf "volumes" TaskVolume.ofJson?
    tags := ← fs.listOf "tags" Tag.ofJson? }

end Reading

def TaskDefinition.ofJson? : Json → Option TaskDefinition := ofJsonWith? Scalar.ofJson?

/-! Writing as JSON. -/

def Variable.toJson (x : Variable) : Json :=
  .object [("name", .string x.name), ("value", x.value.toJson)]

def EnvironmentFile.toJson (f : EnvironmentFile) : Json :=
  .object [("value", .string f.value), ("type", .string f.type)]

def LogConfiguration.toJson (l : LogConfiguration) : Json := compactObject [
  member "logDriver" (.string l.driver),
  dictMember "options" Scalar.toJson l.options]

def Port.toJson (p : Port) : Json := compactObject [
  optionalMember "hostPort" Scalar.toJson p.hostPort,
  member "containerPort" p.containerPort.toJson,
  optionalMember "protocol" .string p.protocol,
  optionalMember "name" .string p.name]

def MountPoint.toJson (m : MountPoint) : Json := compactObject [
  member "sourceVolume" (.string m.sourceVolume),
  member "containerPath" (.string m.containerPath),
  flagMember "readOnly" m.readOnly]

def VolumeFrom.toJson (f : VolumeFrom) : Json := compactObject [
  member "sourceContainer" (.string f.sourceContainer),
  flagMember "readOnly" f.readOnly]

def CheckDefinition.toJson (h : CheckDefinition) : Json := compactObject [
  member "command" (strings h.command),
  optionalMember "interval" Scalar.toJson h.interval,
  optionalMember "timeout" Scalar.toJson h.timeout,
  optionalMember "retries" Scalar.toJson h.retries]

def VolumeHost.toJson (h : VolumeHost) : Json :=
  compactObject [optionalMember "sourcePath" .string h.sourcePath]

def TaskVolume.toJson (t : TaskVolume) : Json := compactObject [
  member "name" (.string t.name),
  optionalMember "host" VolumeHost.toJson t.host]

def Tag.toJson (t : Tag) : Json := .object [("key", .string t.key), ("value", .string t.value)]

def ContainerDefinition.toJson (d : ContainerDefinition) : Json := compactObject [
  listMember "command" .string d.command,
  optionalMember "cpu" Scalar.toJson d.cpu,
  listMember "dnsServers" .string d.dnsServers,
  listMember "dnsSearchDomains" .string d.dnsSearchDomains,
  dictMember "dockerLabels" Scalar.toJson d.dockerLabels,
  listMember "entryPoint" .string d.entryPoint,
  listMember "environment" Variable.toJson d.environment,
  listMember "environmentFiles" EnvironmentFile.toJson d.environmentFiles,
  optionalMember "essential" .bool d.essential,
  optionalMember "healthCheck" CheckDefinition.toJson d.healthCheck,
  optionalMember "hostname" .string d.hostname,
  member "image" (.string d.image),
  listMember "links" .string d.links,
  optionalMember "logConfiguration" LogConfiguration.toJson d.logConfiguration,
  optionalMember "memory" Scalar.toJson d.memory,
  listMember "mountPoints" MountPoint.toJson d.mountPoints,
  member "name" (.string d.name),
  listMember "portMappings" Port.toJson d.portMappings,
  flagMember "privileged" d.privileged,
  optionalMember "user" .string d.user,
  listMember "volumesFrom" VolumeFrom.toJson d.volumesFrom,
  optionalMember "workingDirectory" .string d.workingDirectory]

def TaskDefinition.toJson (t : TaskDefinition) : Json := compactObject [
  member "family" (.string t.family),
  optionalMember "networkMode" .string t.networkMode,
  optionalMember "pidMode" .string t.pidMode,
  member "containerDefinitions" (.array (t.containerDefinitions.map ContainerDefinition.toJson)),
  member "volumes" (.array (t.volumes.map TaskVolume.toJson)),
  listMember "tags" Tag.toJson t.tags]

end Workload.Ecs
