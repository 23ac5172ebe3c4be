import Workload.Compose.Ingest
import Workload.Proofs.Order
import Workload.Proofs.Traverse

/-! When a compose file can be read, and what it is read as. -/
namespace Workload.Compose

namespace Service

structure Parts where
  environment : Dict String
  labels : Dict String
  ports : List PortMapping
  volumes : List Volume
  expose : List UInt16
  memory : Option UInt64
  cpuShares : Option UInt64
  logging : Option Logging
  check : Option (Option HealthCheck)
  command : Option String
  entrypoint : Option String
  envFiles : List String
  dns : List String
  dnsSearch : List String
  networks : List String
  build : Option Build

structure Decodes (s : Service) (parts : Parts) : Prop where
  environment : decodePairs s.environment = .ok parts.environment
  labels : decodePairs s.labels = .ok parts.labels
  ports : s.ports.mapM decodePort = .ok parts.ports
  volumes : s.volumes.mapM decodeVolume = .ok parts.volumes
  expose : s.expose.mapM decodeExposed = .ok parts.expose
  memory : s.memLimit.mapM decodeMemoryLimit = .ok parts.memory
  cpuShares : s.cpuShares.mapM Scalar.toUInt64 = .ok parts.cpuShares
  logging : s.logging.mapM LoggingSection.toLogging = .ok parts.logging
  check : s.healthcheck.mapM HealthSection.toCheck? = .ok parts.check
  command : decodeCommand s.command = .ok parts.command
  entrypoint : decodeCommand s.entrypoint = .ok parts.entrypoint
  envFiles : decodeStrings s.envFile = .ok parts.envFiles
  dns : decodeStrings s.dns = .ok parts.dns
  dnsSearch : decodeStrings s.dnsSearch = .ok parts.dnsSearch
  networks : decodeNetworks s.networks = .ok parts.networks
  build : s.build.mapM (Build.decode .yaml) = .ok parts.build

def assemble (name : String) (s : Service) (parts : Parts) : Container where
  name := name
  image := s.image
  command := parts.command
  entrypoint := parts.entrypoint
  workingDir := s.workingDir
  user := s.user
  hostname := s.hostname
  privileged := s.privileged
  cpuShares := parts.cpuShares
  memory := parts.memory
  environment := parts.environment
  envFiles := parts.envFiles
  labels := parts.labels
  dns := parts.dns
  dnsSearch := parts.dnsSearch
  expose := parts.expose
  ports := parts.ports
  volumes := parts.volumes
  volumesFrom := s.volumesFrom
  links := s.links
  networks := parts.networks
  networkMode := s.networkMode
  pid := s.pid
  logging := parts.logging
  build := parts.build
  healthChecks := parts.check.join.toList
  pullPolicy := s.pullPolicy
  stopSignal := s.stopSignal

theorem toContainer_eq_ok_iff {name : String} {s : Service} {c : Container} :
    s.toContainer name = .ok c ↔ ∃ parts, s.Decodes parts ∧ c = s.assemble name parts := by
  simp only [toContainer, bind_eq_ok_iff, inField_eq_ok_iff, pure_eq_ok_iff]
  constructor
  · rintro ⟨environment, henvironment, labels, hlabels, ports, hports, volumes, hvolumes, expose,
      hexpose, memory, hmemory, cpuShares, hcpuShares, logging, hlogging, check, hcheck, command,
      hcommand, entrypoint, hentrypoint, envFiles, henvFiles, dns, hdns, dnsSearch, hdnsSearch,
      networks, hnetworks, build, hbuild, rfl⟩
    exact ⟨⟨environment, labels, ports, volumes, expose, memory, cpuShares, logging, check, command,
      entrypoint, envFiles, dns, dnsSearch, networks, build⟩, ⟨henvironment, hlabels, hports,
      hvolumes, hexpose, hmemory, hcpuShares, hlogging, hcheck, hcommand, hentrypoint, henvFiles,
      hdns, hdnsSearch, hnetworks, hbuild⟩, rfl⟩
  · rintro ⟨parts, h, rfl⟩
    exact ⟨_, h.environment, _, h.labels, _, h.ports, _, h.volumes, _, h.expose, _, h.memory, _,
      h.cpuShares, _, h.logging, _, h.check, _, h.command, _, h.entrypoint, _, h.envFiles, _, h.dns,
      _, h.dnsSearch, _, h.networks, _, h.build, rfl⟩

theorem name_of_toContainer {name : String} {s : Service} {c : Container}
    (h : s.toContainer name = .ok c) : name = c.name := by
  obtain ⟨parts, _, rfl⟩ := toContainer_eq_ok_iff.1 h
  rfl

/-- The service with other values in the fields that can fail, each of them decoded alike. -/
inductive ReadAlike (s : Service) : Service → Prop
  | intro {build command dns dnsSearch entrypoint envFile environment labels networks : Option Value}
      {expose ports volumes : List Scalar} {cpuShares memLimit : Option Scalar}
      {healthcheck : Option HealthSection} {logging : Option LoggingSection}
      (henvironment : decodePairs s.environment = decodePairs environment)
      (hlabels : decodePairs s.labels = decodePairs labels)
      (hports : s.ports.mapM decodePort = ports.mapM decodePort)
      (hvolumes : s.volumes.mapM decodeVolume = volumes.mapM decodeVolume)
      (hexpose : s.expose.mapM decodeExposed = expose.mapM decodeExposed)
      (hmemLimit : s.memLimit.mapM decodeMemoryLimit = memLimit.mapM decodeMemoryLimit)
      (hcpuShares : s.cpuShares.mapM Scalar.toUInt64 = cpuShares.mapM Scalar.toUInt64)
      (hlogging : s.logging.mapM LoggingSection.toLogging = logging.mapM LoggingSection.toLogging)
      (hhealthcheck : s.healthcheck.mapM HealthSection.toCheck? =
        healthcheck.mapM HealthSection.toCheck?)
      (hcommand : decodeCommand s.command = decodeCommand command)
      (hentrypoint : decodeCommand s.entrypoint = decodeCommand entrypoint)
      (henvFile : decodeStrings s.envFile = decodeStrings envFile)
      (hdns : decodeStrings s.dns = decodeStrings dns)
      (hdnsSearch : decodeStrings s.dnsSearch = decodeStrings dnsSearch)
      (hnetworks : decodeNetworks s.networks = decodeNetworks networks)
      (hbuild : s.build.mapM (Build.decode .yaml) = build.mapM (Build.decode .yaml)) :
      ReadAlike s { s with
        build, command, dns, dnsSearch, entrypoint, envFile, environment, labels, networks, expose
        ports, volumes, cpuShares, memLimit, healthcheck, logging }

/-- Both are the same container, or the first field that fails has the same error. -/
theorem ReadAlike.toContainer_eq {s t : Service} (h : s.ReadAlike t) (name : String) :
    s.toContainer name = t.toContainer name := by
  obtain ⟨henvironment, hlabels, hports, hvolumes, hexpose, hmemLimit, hcpuShares, hlogging,
    hhealthcheck, hcommand, hentrypoint, henvFile, hdns, hdnsSearch, hnetworks, hbuild⟩ := h
  unfold toContainer
  dsimp only
  rw [henvironment, hlabels, hports, hvolumes, hexpose, hmemLimit, hcpuShares, hlogging,
    hhealthcheck, hcommand, hentrypoint, henvFile, hdns, hdnsSearch, hnetworks, hbuild]

end Service

theorem File.toGroup_congr {f g : File} (h : List.Forall₂
    (fun x y => x.1 = y.1 ∧ x.2.ReadAlike y.2) f.services.entries g.services.entries) :
    f.toGroup = g.toGroup := by
  have containers : f.services.entries.mapM (fun e => e.2.toContainer e.1) =
      g.services.entries.mapM fun e => e.2.toContainer e.1 := by
    refine mapM_congr h ?_
    intro x y alike
    rw [alike.2.toContainer_eq, alike.1]
  unfold toGroup
  rw [containers]

theorem File.toGroup_eq_ok_iff {f : File} {g : Group} :
    f.toGroup = .ok g ↔
      ∃ containers, f.services.entries.mapM (fun e => e.2.toContainer e.1) = .ok containers ∧
        Group.finish formatName { containers } = .ok g :=
  bind_eq_ok_iff

theorem File.keys_eq_names {f : File} {containers : List Container}
    (read : f.services.entries.mapM (fun e => e.2.toContainer e.1) = .ok containers) :
    f.services.keys = containers.map (·.name) :=
  map_eq_of_mapM read fun _ _ => Service.name_of_toContainer

end Workload.Compose
