import Workload.Kube.Ingest
import Workload.Proofs.Dict
import Workload.Proofs.Order
import Workload.Proofs.Traverse

/-! When a pod manifest can be read, and what it is read as. -/
namespace Workload.Kube

namespace ContainerSpec

structure Parts where
  environment : List (String × String)
  ports : List PortMapping
  check : Option (Option HealthCheck)
  memory : Option UInt64
  cpu : Option UInt64
  user : Option String

def security (s : ContainerSpec) : SecurityContext := s.securityContext.getD {}

structure Decodes (s : ContainerSpec) (parts : Parts) : Prop where
  environment : s.env.mapM EnvVar.toPair = .ok parts.environment
  ports : s.ports.mapM ContainerPort.toMapping = .ok parts.ports
  check : s.livenessProbe.mapM (·.toCheck? s.ports) = .ok parts.check
  memory : limit Quantity.memory (s.limits.find? "memory") = .ok parts.memory
  cpu : limit Quantity.cpu (s.limits.find? "cpu") = .ok parts.cpu
  user : s.security.runAsUser.mapM Scalar.toText = .ok parts.user

def assemble (table : VolumeTable) (s : ContainerSpec) (parts : Parts) : Container where
  name := s.name
  image := s.image.bind nonEmpty
  command := Command.join s.args
  entrypoint := Command.join s.command
  workingDir := s.workingDir
  user := parts.user
  privileged := s.security.privileged.getD false
  cpuShares := parts.cpu.filter (0 < ·)
  memory := parts.memory
  environment := .ofList parts.environment
  ports := parts.ports
  volumes := s.volumeMounts.map (·.toVolume table)
  healthChecks := parts.check.join.toList
  pullPolicy := s.imagePullPolicy

theorem toContainer_eq_ok_iff {table : VolumeTable} {s : ContainerSpec} {c : Container} :
    s.toContainer table = .ok c ↔ ∃ parts, s.Decodes parts ∧ c = s.assemble table parts := by
  simp only [toContainer, bind_eq_ok_iff, inField_eq_ok_iff, pure_eq_ok_iff]
  constructor
  · rintro ⟨environment, henvironment, ports, hports, check, hcheck, memory, hmemory, cpu, hcpu,
      user, huser, rfl⟩
    exact ⟨⟨environment, ports, check, memory, cpu, user⟩,
      ⟨henvironment, hports, hcheck, hmemory, hcpu, huser⟩, rfl⟩
  · rintro ⟨parts, h, rfl⟩
    exact ⟨_, h.environment, _, h.ports, _, h.check, _, h.memory, _, h.cpu, _, h.user, rfl⟩

theorem name_of_toContainer {table : VolumeTable} {s : ContainerSpec} {c : Container}
    (h : s.toContainer table = .ok c) : s.name = c.name := by
  obtain ⟨parts, _, rfl⟩ := toContainer_eq_ok_iff.1 h
  rfl

end ContainerSpec

namespace Pod

theorem volumeTable_eq (p : Pod) :
    p.volumeTable = ⟨.ofList (p.volumes.map fun v => (v.name, v.hostPath))⟩ := by
  unfold volumeTable Dict.ofList
  rw [List.foldl_map]
  exact List.foldl_hom VolumeTable.mk fun _ _ => rfl

def assemble (p : Pod) (labels : Dict String) (containers : List Container) : Group where
  name := p.name.bind nonEmpty
  containers := containers.map fun c => { c with hostname := p.hostname }
  labels
  hostNetwork := p.hostNetwork
  hostPid := p.hostPid

theorem toGroup_eq_ok_iff {p : Pod} {g : Group} :
    p.toGroup = .ok g ↔
      (∀ kind ∈ p.kind, kind = "Pod") ∧
      ∃ labels, Pairs.texts p.labels = .ok labels ∧
      ∃ containers, p.containers.mapM (·.toContainer p.volumeTable) = .ok containers ∧
        (p.assemble labels containers).finish formatName = .ok g := by
  have mapError {r : Except FieldError (Dict String)} {labels : Dict String} :
      (r.mapError fun e => ConversionError.structural formatName (.groupLabel e)) = .ok labels ↔
        r = .ok labels := by
    cases r <;> simp [Except.mapError]
  unfold toGroup
  cases p.kind with
  | none =>
    simp only [bind_eq_ok_iff (f := fun labels : Dict String => _), mapError,
      mapM_return_bind_eq_ok_iff]
    simp [assemble]
  | some kind =>
    by_cases h : kind = "Pod"
    · simp only [h, ne_eq, not_true_eq_false, if_false,
        bind_eq_ok_iff (f := fun labels : Dict String => _), mapError, mapM_return_bind_eq_ok_iff]
      simp [assemble]
    · simp [h, throw, throwThe, MonadExceptOf.throw, bind, Except.bind]

theorem names_assemble {p : Pod} {labels : Dict String} {containers : List Container}
    (read : p.containers.mapM (·.toContainer p.volumeTable) = .ok containers) :
    (p.assemble labels containers).containers.map (·.name) = p.containers.map (·.name) := by
  rw [map_eq_of_mapM read fun _ _ => ContainerSpec.name_of_toContainer, assemble, List.map_map]
  rfl

end Pod
end Workload.Kube
