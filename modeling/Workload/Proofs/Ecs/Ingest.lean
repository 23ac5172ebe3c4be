import Workload.Ecs.Ingest
import Workload.Proofs.Dict
import Workload.Proofs.Order
import Workload.Proofs.Traverse

/-! When a task definition can be read, and what it is read as. -/
namespace Workload.Ecs

namespace ContainerDefinition

structure Parts where
  environment : List (String × String)
  labels : Dict String
  ports : List PortMapping
  memory : Option UInt64
  cpu : Option UInt64
  logging : Option Logging
  check : Option (Option HealthCheck)

structure Decodes (d : ContainerDefinition) (parts : Parts) : Prop where
  environment : d.environment.mapM Variable.toPair = .ok parts.environment
  labels : Pairs.texts d.dockerLabels = .ok parts.labels
  ports : d.portMappings.mapM Port.toMapping = .ok parts.ports
  memory : d.memory.mapM Scalar.toUInt64 = .ok parts.memory
  cpu : d.cpu.mapM Scalar.toUInt64 = .ok parts.cpu
  logging : d.logConfiguration.mapM LogConfiguration.toLogging = .ok parts.logging
  check : d.healthCheck.mapM CheckDefinition.toCheck? = .ok parts.check

def assemble (table : VolumeTable) (d : ContainerDefinition) (parts : Parts) : Container where
  name := d.name
  image := nonEmpty d.image
  command := Command.join d.command
  entrypoint := Command.join d.entryPoint
  workingDir := d.workingDirectory
  user := d.user
  hostname := d.hostname
  privileged := d.privileged
  essential := d.essential.getD false
  cpuShares := parts.cpu.filter (0 < ·)
  memory := some (Memory.ofMebibytes parts.memory)
  environment := .ofList parts.environment
  envFiles := d.environmentFiles.map (·.value)
  labels := parts.labels
  dns := d.dnsServers
  dnsSearch := d.dnsSearchDomains
  ports := parts.ports
  volumes := d.mountPoints.map (·.toVolume table)
  volumesFrom := d.volumesFrom.map VolumeFrom.toText
  links := d.links
  logging := parts.logging
  healthChecks := parts.check.join.toList

theorem toContainer_eq_ok_iff {table : VolumeTable} {d : ContainerDefinition} {c : Container} :
    d.toContainer table = .ok c ↔ ∃ parts, d.Decodes parts ∧ c = d.assemble table parts := by
  simp only [toContainer, bind_eq_ok_iff, inField_eq_ok_iff, pure_eq_ok_iff]
  constructor
  · rintro ⟨environment, henvironment, labels, hlabels, ports, hports, memory, hmemory, cpu, hcpu,
      logging, hlogging, check, hcheck, rfl⟩
    exact ⟨⟨environment, labels, ports, memory, cpu, logging, check⟩,
      ⟨henvironment, hlabels, hports, hmemory, hcpu, hlogging, hcheck⟩, rfl⟩
  · rintro ⟨parts, h, rfl⟩
    exact ⟨_, h.environment, _, h.labels, _, h.ports, _, h.memory, _, h.cpu, _, h.logging, _,
      h.check, rfl⟩

theorem name_of_toContainer {table : VolumeTable} {d : ContainerDefinition} {c : Container}
    (h : d.toContainer table = .ok c) : d.name = c.name := by
  obtain ⟨parts, _, rfl⟩ := toContainer_eq_ok_iff.1 h
  rfl

end ContainerDefinition

namespace TaskDefinition

theorem volumeTable_eq (t : TaskDefinition) :
    t.volumeTable = ⟨.ofList (t.volumes.map fun v => (v.name, v.host.bind (·.sourcePath)))⟩ := by
  unfold volumeTable Dict.ofList
  rw [List.foldl_map]
  exact List.foldl_hom VolumeTable.mk fun _ _ => rfl

def assemble (t : TaskDefinition) (containers : List Container) : Group where
  name := nonEmpty t.family
  containers := containers.map fun c =>
    { c with networkMode := sharedMode t.networkMode, pid := sharedMode t.pidMode }
  labels := .ofList (t.tags.map fun tag => (tag.key, tag.value))
  hostNetwork := t.networkMode == some "host"
  hostPid := t.pidMode == some "host"

theorem toGroup_eq_ok_iff {t : TaskDefinition} {g : Group} :
    t.toGroup = .ok g ↔
      ∃ containers, t.containerDefinitions.mapM (·.toContainer t.volumeTable) = .ok containers ∧
        (t.assemble containers).finish formatName = .ok g := by
  unfold toGroup
  rw [mapM_return_bind_eq_ok_iff]
  rfl

theorem names_assemble {t : TaskDefinition} {containers : List Container}
    (read : t.containerDefinitions.mapM (·.toContainer t.volumeTable) = .ok containers) :
    (t.assemble containers).containers.map (·.name) = t.containerDefinitions.map (·.name) := by
  rw [map_eq_of_mapM read fun _ _ => ContainerDefinition.name_of_toContainer, assemble,
    List.map_map]
  rfl

end TaskDefinition
end Workload.Ecs
