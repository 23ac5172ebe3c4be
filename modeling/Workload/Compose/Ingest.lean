import Workload.Compose.File
import Workload.Codec.Build
import Workload.Codec.Command
import Workload.Codec.Duration
import Workload.Codec.Port
import Workload.Codec.Quantity
import Workload.Codec.Volume
import Workload.Model.Finish

/-! From compose files to groups: every service becomes a container named by its key. -/
namespace Workload.Compose

def decodePairs (v : Option Value) : Except FieldError (Dict String) :=
  (v.mapM (Pairs.decode .yaml)).map (·.getD ∅)

def decodeCommand (v : Option Value) : Except FieldError (Option String) :=
  (v.mapM (Command.decode .yaml)).map Option.join

def decodeStrings (v : Option Value) : Except FieldError (List String) :=
  (v.mapM (Command.decodeList .yaml)).map (·.getD [])

def decodeNetworks (v : Option Value) : Except FieldError (List String) :=
  (v.mapM (Command.decodeNetworks .yaml)).map (·.getD [])

def decodePort (s : Scalar) : Except FieldError PortMapping := do PortMapping.decode (← s.toText)

def decodeVolume (s : Scalar) : Except FieldError Volume := do Volume.decode (← s.toText)

def decodeExposed (s : Scalar) : Except FieldError UInt16 :=
  match s with
  | .int _ => s.toUInt16
  | s => do
    let cs := (← s.toText).toList
    let bare := ((Text.dropEnding? "/tcp" cs).or (Text.dropEnding? "/udp" cs)).getD cs
    (Scalar.text (String.ofList bare)).toUInt16

def decodeMemoryLimit (s : Scalar) : Except FieldError UInt64 :=
  match s with
  | .int bytes => .ok bytes
  | s => do Quantity.byteSize (← s.toText)

def LoggingSection.toLogging (l : LoggingSection) : Except FieldError Logging := do
  return { driver := l.driver.getD "", options := ← Pairs.texts l.options }

/-- A check that is disabled or has no command is none, whatever its timing says. -/
def HealthSection.toCheck? (h : HealthSection) : Except FieldError (Option HealthCheck) := do
  if h.disable then return none
  let test ← h.test.mapM (Command.decodeTest .yaml)
  match test.join with
  | none => return none
  | some command =>
    return some {
      probe := .exec command
      interval := ← h.interval.mapM Duration.parse
      timeout := ← h.timeout.mapM Duration.parse
      failureThreshold := ← h.retries.mapM Scalar.toUInt32 }

def Service.toContainer (name : String) (s : Service) : Except ConversionError Container := do
  let field {α : Type} (field : String) (r : Except FieldError α) := inField formatName name field r
  let environment ← field "environment" (decodePairs s.environment)
  let labels ← field "labels" (decodePairs s.labels)
  let ports ← field "ports" (s.ports.mapM decodePort)
  let volumes ← field "volumes" (s.volumes.mapM decodeVolume)
  let expose ← field "expose" (s.expose.mapM decodeExposed)
  let memory ← field "mem_limit" (s.memLimit.mapM decodeMemoryLimit)
  let cpuShares ← field "cpu_shares" (s.cpuShares.mapM Scalar.toUInt64)
  let logging ← field "logging" (s.logging.mapM LoggingSection.toLogging)
  let check ← field "healthcheck" (s.healthcheck.mapM HealthSection.toCheck?)
  let command ← field "command" (decodeCommand s.command)
  let entrypoint ← field "entrypoint" (decodeCommand s.entrypoint)
  let envFiles ← field "env_file" (decodeStrings s.envFile)
  let dns ← field "dns" (decodeStrings s.dns)
  let dnsSearch ← field "dns_search" (decodeStrings s.dnsSearch)
  let networks ← field "networks" (decodeNetworks s.networks)
  let build ← field "build" (s.build.mapM (Build.decode .yaml))
  return {
    name, environment, labels, ports, volumes, expose, memory, cpuShares, logging, command
    entrypoint, envFiles, dns, dnsSearch, networks, build
    healthChecks := check.join.toList
    image := s.image
    workingDir := s.workingDir
    user := s.user
    hostname := s.hostname
    privileged := s.privileged
    volumesFrom := s.volumesFrom
    links := s.links
    networkMode := s.networkMode
    pid := s.pid
    pullPolicy := s.pullPolicy
    stopSignal := s.stopSignal }

def File.toGroup (f : File) : Except ConversionError Group := do
  let containers ← f.services.entries.mapM fun e => e.2.toContainer e.1
  Group.finish formatName { containers }

def ingest (text : String) : Except ConversionError Group :=
  match File.parse? text with
  | some f => f.toGroup
  | none => .error (.structural formatName .unparsable)

end Workload.Compose
