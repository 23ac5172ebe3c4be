import Workload.Codec.Scalar
import Workload.Yaml.Decode

/-! Compose files as records. Fields that have more than one native shape stay generic values. -/
namespace Workload.Compose

def formatName : String := "compose"

structure LoggingSection where
  driver : Option String := none
  options : Dict Scalar := ∅

structure HealthSection where
  test : Option Value := none
  interval : Option String := none
  timeout : Option String := none
  retries : Option Scalar := none
  disable : Bool := false

structure Service where
  build : Option Value := none
  command : Option Value := none
  cpuShares : Option Scalar := none
  dns : Option Value := none
  dnsSearch : Option Value := none
  entrypoint : Option Value := none
  envFile : Option Value := none
  environment : Option Value := none
  expose : List Scalar := []
  healthcheck : Option HealthSection := none
  hostname : Option String := none
  image : Option String := none
  labels : Option Value := none
  links : List String := []
  logging : Option LoggingSection := none
  memLimit : Option Scalar := none
  networks : Option Value := none
  networkMode : Option String := none
  pid : Option String := none
  ports : List Scalar := []
  privileged : Bool := false
  pullPolicy : Option String := none
  stopSignal : Option String := none
  user : Option String := none
  volumes : List Scalar := []
  volumesFrom : List String := []
  workingDir : Option String := none

structure File where
  version : Option Scalar := none
  services : Dict Service := ∅

/-- A file by its services in the order they are written; of those with one name the last counts. -/
def File.ofServices (version : Option Scalar) (services : List (String × Service)) : File :=
  { version, services := Dict.ofList services }

/-! Reading from YAML. What is made of the nodes of scalar fields is a parameter: a record fits its
form or not whatever they hold. -/
open Yaml Yaml.Decode

section Reading
variable (scalar : Node → Decode Scalar)

def LoggingSection.ofNodeWith : Node → Decode LoggingSection :=
  record ["driver", "options"] fun fs => do return {
    driver := ← fs.optional "driver" string
    options := ← fs.dictOf "options" scalar }

def HealthSection.ofNodeWith : Node → Decode HealthSection :=
  record ["test", "interval", "timeout", "retries", "disable"] fun fs => do return {
    test := ← fs.optional "test" value
    interval := ← fs.optional "interval" string
    timeout := ← fs.optional "timeout" string
    retries := ← fs.optional "retries" scalar
    disable := ← fs.flag "disable" }

def Service.fieldNames : List String := [
  "build", "command", "cpu_shares", "dns", "dns_search", "entrypoint", "env_file", "environment",
  "expose", "healthcheck", "hostname", "image", "labels", "links", "logging", "mem_limit",
  "networks", "network_mode", "pid", "ports", "privileged", "pull_policy", "stop_signal", "user",
  "volumes", "volumes_from", "working_dir"]

def Service.ofNodeWith : Node → Decode Service :=
  record fieldNames fun fs => do return {
    build := ← fs.optional "build" value
    command := ← fs.optional "command" value
    cpuShares := ← fs.optional "cpu_shares" scalar
    dns := ← fs.optional "dns" value
    dnsSearch := ← fs.optional "dns_search" value
    entrypoint := ← fs.optional "entrypoint" value
    envFile := ← fs.optional "env_file" value
    environment := ← fs.optional "environment" value
    expose := ← fs.listOf "expose" scalar
    healthcheck := ← fs.optional "healthcheck" (HealthSection.ofNodeWith scalar)
    hostname := ← fs.optional "hostname" string
    image := ← fs.optional "image" string
    labels := ← fs.optional "labels" value
    links := ← fs.listOf "links" string
    logging := ← fs.optional "logging" (LoggingSection.ofNodeWith scalar)
    memLimit := ← fs.optional "mem_limit" scalar
    networks := ← fs.optional "networks" value
    networkMode := ← fs.optional "network_mode" string
    pid := ← fs.optional "pid" string
    ports := ← fs.listOf "ports" scalar
    privileged := ← fs.flag "privileged"
    pullPolicy := ← fs.optional "pull_policy" string
    stopSignal := ← fs.optional "stop_signal" string
    user := ← fs.optional "user" string
    volumes := ← fs.listOf "volumes" scalar
    volumesFrom := ← fs.listOf "volumes_from" string
    workingDir := ← fs.optional "working_dir" string }

def File.ofNodeWith : Node → Decode File :=
  record ["version", "services"] fun fs => do
    let version ← fs.optional "version" scalar
    let services ← fs.withDefault "services" (pairs (Service.ofNodeWith scalar)) []
    return .ofServices version services

end Reading

def File.ofNode : Node → Decode File := File.ofNodeWith scalar

def File.parse? (text : String) : Option File := do
  Decode.run (← Document.parse? text) {} File.ofNode

theorem File.parse?_eq {text : String} {d : Document} (parsed : Document.parse? text = some d) :
    File.parse? text = Decode.run d {} File.ofNode := by
  rw [File.parse?, parsed]
  rfl

/-! Writing as YAML. Fields that are absent or empty are left out. -/

abbrev Entry := Option (Value × Value)

def entry (name : String) (v : Option Value) : Entry := v.map (.string name, ·)

def textEntry (name : String) (s : Option String) : Entry := entry name (s.map .string)

def scalarEntry (name : String) (s : Option Scalar) : Entry := entry name (s.map Scalar.toValue)

def listEntry (name : String) (items : List Value) : Entry :=
  entry name (if items.isEmpty then none else some (.list items))

def flagEntry (name : String) (b : Bool) : Entry :=
  entry name (if b then some (.bool true) else none)

def mappingOf (entries : List Entry) : Value := .mapping (entries.filterMap id)

def ofDict (toValue : α → Value) (d : Dict α) : Value :=
  .mapping (d.entries.map fun (k, v) => (.string k, toValue v))

def LoggingSection.toValue (l : LoggingSection) : Value := mappingOf [
  textEntry "driver" l.driver,
  entry "options" (if l.options.isEmpty then none else some (ofDict Scalar.toValue l.options))]

def HealthSection.toValue (h : HealthSection) : Value := mappingOf [
  entry "test" h.test,
  textEntry "interval" h.interval,
  textEntry "timeout" h.timeout,
  scalarEntry "retries" h.retries,
  flagEntry "disable" h.disable]

def Service.toValue (s : Service) : Value := mappingOf [
  entry "build" s.build,
  entry "command" s.command,
  scalarEntry "cpu_shares" s.cpuShares,
  entry "dns" s.dns,
  entry "dns_search" s.dnsSearch,
  entry "entrypoint" s.entrypoint,
  entry "env_file" s.envFile,
  entry "environment" s.environment,
  listEntry "expose" (s.expose.map Scalar.toValue),
  entry "healthcheck" (s.healthcheck.map HealthSection.toValue),
  textEntry "hostname" s.hostname,
  textEntry "image" s.image,
  entry "labels" s.labels,
  listEntry "links" (s.links.map .string),
  entry "logging" (s.logging.map LoggingSection.toValue),
  scalarEntry "mem_limit" s.memLimit,
  entry "networks" s.networks,
  textEntry "network_mode" s.networkMode,
  textEntry "pid" s.pid,
  listEntry "ports" (s.ports.map Scalar.toValue),
  flagEntry "privileged" s.privileged,
  textEntry "pull_policy" s.pullPolicy,
  textEntry "stop_signal" s.stopSignal,
  textEntry "user" s.user,
  listEntry "volumes" (s.volumes.map Scalar.toValue),
  listEntry "volumes_from" (s.volumesFrom.map .string),
  textEntry "working_dir" s.workingDir]

def File.toValue (f : File) : Value := mappingOf [
  scalarEntry "version" f.version,
  entry "services" (some (ofDict Service.toValue f.services))]

end Workload.Compose
