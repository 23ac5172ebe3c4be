import Workload.Model.Basic
import Workload.Json.Record

/-! The JSON form of the model records. Absent options and empty lists and tables are left out;
reading restores them. -/
namespace Workload
open Json

def Protocol.toJson (p : Protocol) : Json := .string p.name

def Protocol.ofName? : String → Option Protocol
  | "tcp" => some .tcp
  | "udp" => some .udp
  | _ => none

/-- The name itself, or an object that gives it the null value. -/
def Protocol.ofJson? : Json → Option Protocol
  | .string s => ofName? s
  | .object [(s, .null)] => ofName? s
  | _ => none

namespace PortMapping

def toJson (p : PortMapping) : Json := compactObject [
  optionalMember "host_ip" .string p.hostIp,
  member "host_port" (natural p.hostPort.toNat),
  member "container_port" (natural p.containerPort.toNat),
  member "protocol" p.protocol.toJson,
  optionalMember "name" .string p.name]

def ofJson? (v : Json) : Option PortMapping := do
  let fs ← v.record? ["host_ip", "host_port", "container_port", "protocol", "name"]
  return {
    hostIp := ← fs.optional "host_ip" string?
    hostPort := ← fs.withDefault "host_port" uint16? 0
    containerPort := ← fs.required "container_port" uint16?
    protocol := ← fs.withDefault "protocol" Protocol.ofJson? .tcp
    name := ← fs.optional "name" string? }

end PortMapping

namespace Volume

def toJson (v : Volume) : Json := compactObject [
  optionalMember "host" .string v.host,
  member "container" (.string v.container),
  member "read_only" (.bool v.readOnly)]

def ofJson? (v : Json) : Option Volume := do
  let fs ← v.record? ["host", "container", "read_only"]
  return {
    host := ← fs.optional "host" string?
    container := ← fs.required "container" string?
    readOnly := ← fs.flag "read_only" }

end Volume

namespace Logging

def toJson (l : Logging) : Json := compactObject [
  member "driver" (.string l.driver),
  dictMember "options" .string l.options]

def ofJson? (v : Json) : Option Logging := do
  let fs ← v.record? ["driver", "options"]
  return {
    driver := ← fs.required "driver" string?
    options := ← fs.dictOf "options" string? }

end Logging

namespace Build

def toJson (b : Build) : Json := compactObject [
  member "context" (.string b.context),
  optionalMember "dockerfile" .string b.dockerfile,
  dictMember "args" .string b.args]

def ofJson? (v : Json) : Option Build := do
  let fs ← v.record? ["context", "dockerfile", "args"]
  return {
    context := ← fs.required "context" string?
    dockerfile := ← fs.optional "dockerfile" string?
    args := ← fs.dictOf "args" string? }

end Build

namespace HttpProbe

def toJson (p : HttpProbe) : Json := compactObject [
  member "path" (.string p.path),
  member "port" (natural p.port.toNat),
  optionalMember "host" .string p.host,
  optionalMember "scheme" .string p.scheme,
  dictMember "headers" .string p.headers]

def ofJson? (v : Json) : Option HttpProbe := do
  let fs ← v.record? ["path", "port", "host", "scheme", "headers"]
  return {
    path := ← fs.withDefault "path" string? ""
    port := ← fs.required "port" uint16?
    host := ← fs.optional "host" string?
    scheme := ← fs.optional "scheme" string?
    headers := ← fs.dictOf "headers" string? }

end HttpProbe

namespace Probe

def toJson : Probe → Json
  | exec command => .object [("exec", .object [("command", .string command)])]
  | http request => .object [("http", request.toJson)]

/-- One key names the form; an exec probe is always an object. -/
def ofJson? : Json → Option Probe
  | .object [("exec", .object ms)] => do
    let fs ← (Json.object ms).record? ["command"]
    return exec (← fs.required "command" string?)
  | .object [("http", v)] => (HttpProbe.ofJson? v).map http
  | _ => none

end Probe

namespace HealthCheck

def toJson (h : HealthCheck) : Json := compactObject [
  member "probe" h.probe.toJson,
  optionalMember "interval" (natural ·.toNat) h.interval,
  optionalMember "timeout" (natural ·.toNat) h.timeout,
  optionalMember "failure_threshold" (natural ·.toNat) h.failureThreshold]

def ofJson? (v : Json) : Option HealthCheck := do
  let fs ← v.record? ["probe", "interval", "timeout", "failure_threshold"]
  return {
    probe := ← fs.required "probe" Probe.ofJson?
    interval := ← fs.optional "interval" uint32?
    timeout := ← fs.optional "timeout" uint32?
    failureThreshold := ← fs.optional "failure_threshold" uint32? }

end HealthCheck

namespace Container

def fieldNames : List String := [
  "name", "image", "command", "entrypoint", "working_dir", "user", "hostname", "privileged",
  "essential", "cpu_shares", "memory", "environment", "env_files", "labels", "dns", "dns_search",
  "expose", "ports", "volumes", "volumes_from", "links", "networks", "network_mode", "pid",
  "logging", "build", "health_checks", "pull_policy", "stop_signal"]

def toJson (c : Container) : Json := compactObject [
  member "name" (.string c.name),
  optionalMember "image" .string c.image,
  optionalMember "command" .string c.command,
  optionalMember "entrypoint" .string c.entrypoint,
  optionalMember "working_dir" .string c.workingDir,
  optionalMember "user" .string c.user,
  optionalMember "hostname" .string c.hostname,
  member "privileged" (.bool c.privileged),
  member "essential" (.bool c.essential),
  optionalMember "cpu_shares" (natural ·.toNat) c.cpuShares,
  optionalMember "memory" (natural ·.toNat) c.memory,
  dictMember "environment" .string c.environment,
  listMember "env_files" .string c.envFiles,
  dictMember "labels" .string c.labels,
  listMember "dns" .string c.dns,
  listMember "dns_search" .string c.dnsSearch,
  listMember "expose" (natural ·.toNat) c.expose,
  listMember "ports" PortMapping.toJson c.ports,
  listMember "volumes" Volume.toJson c.volumes,
  listMember "volumes_from" .string c.volumesFrom,
  listMember "links" .string c.links,
  listMember "networks" .string c.networks,
  optionalMember "network_mode" .string c.networkMode,
  optionalMember "pid" .string c.pid,
  optionalMember "logging" Logging.toJson c.logging,
  optionalMember "build" Build.toJson c.build,
  listMember "health_checks" HealthCheck.toJson c.healthChecks,
  optionalMember "pull_policy" .string c.pullPolicy,
  optionalMember "stop_signal" .string c.stopSignal]

def ofJson? (v : Json) : Option Container := do
  let fs ← v.record? fieldNames
  return {
    name := ← fs.required "name" string?
    image := ← fs.optional "image" string?
    command := ← fs.optional "command" string?
    entrypoint := ← fs.optional "entrypoint" string?
    workingDir := ← fs.optional "working_dir" string?
    user := ← fs.optional "user" string?
    hostname := ← fs.optional "hostname" string?
    privileged := ← fs.flag "privileged"
    essential := ← fs.flag "essential"
    cpuShares := ← fs.optional "cpu_shares" uint64?
    memory := ← fs.optional "memory" uint64?
    environment := ← fs.dictOf "environment" string?
    envFiles := ← fs.listOf "env_files" string?
    labels := ← fs.dictOf "labels" string?
    dns := ← fs.listOf "dns" string?
    dnsSearch := ← fs.listOf "dns_search" string?
    expose := ← fs.listOf "expose" uint16?
    ports := ← fs.listOf "ports" PortMapping.ofJson?
    volumes := ← fs.listOf "volumes" Volume.ofJson?
    volumesFrom := ← fs.listOf "volumes_from" string?
    links := ← fs.listOf "links" string?
    networks := ← fs.listOf "networks" string?
    networkMode := ← fs.optional "network_mode" string?
    pid := ← fs.optional "pid" string?
    logging := ← fs.optional "logging" Logging.ofJson?
    build := ← fs.optional "build" Build.ofJson?
    healthChecks := ← fs.listOf "health_checks" HealthCheck.ofJson?
    pullPolicy := ← fs.optional "pull_policy" string?
    stopSignal := ← fs.optional "stop_signal" string? }

end Container

namespace Group

def toJson (g : Group) : Json := compactObject [
  optionalMember "name" .string g.name,
  member "containers" (.array (g.containers.map Container.toJson)),
  dictMember "global_labels" .string g.labels,
  member "host_network" (.bool g.hostNetwork),
  member "host_pid" (.bool g.hostPid),
  optionalMember "replicas" (natural ·.toNat) g.replicas]

def ofJson? (v : Json) : Option Group := do
  let fs ← v.record?
    ["name", "containers", "global_labels", "host_network", "host_pid", "replicas"]
  return {
    name := ← fs.optional "name" string?
    containers := ← fs.listOf "containers" Container.ofJson?
    labels := ← fs.dictOf "global_labels" string?
    hostNetwork := ← fs.flag "host_network"
    hostPid := ← fs.flag "host_pid"
    replicas := ← fs.optional "replicas" uint32? }

end Group
end Workload
