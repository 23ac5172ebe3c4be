import Workload.Compose.Emit
import Workload.Ecs.Emit
import Workload.Proofs.Compose.Shuffle
import Workload.Proofs.Ecs.Shuffle
import Workload.Proofs.Kube.Shuffle

/-! Documents of all formats, as they are once they are parsed. -/
namespace Workload

inductive Document where
  | compose (file : Compose.File)
  | ecs (task : Ecs.TaskDefinition)
  | k8s (pod : Kube.Pod)

namespace Document

def toGroup : Document → Except ConversionError Group
  | compose file => file.toGroup
  | ecs task => task.toGroup
  | k8s pod => pod.toGroup

/-- Documents of one format that differ in the order of what has no order. -/
inductive Shuffled : Document → Document → Prop
  | compose {f f' : Compose.File} (h : f.Shuffled f') : Shuffled (.compose f) (.compose f')
  | ecs {t t' : Ecs.TaskDefinition} (h : t.Shuffled t') : Shuffled (.ecs t) (.ecs t')
  | k8s {p p' : Kube.Pod} (h : p.Shuffled p') : Shuffled (.k8s p) (.k8s p')

theorem toGroup_shuffled {d e : Document} {g : Group} (h : d.Shuffled e)
    (read : d.toGroup = .ok g) :
    ∃ g', e.toGroup = .ok g' ∧ (g.containers.map (·.name)).Nodup ∧ g.Shuffled g' := by
  cases h with
  | compose h => exact Compose.toGroup_shuffled h read
  | ecs h => exact Ecs.toGroup_shuffled h read
  | k8s h => exact Kube.toGroup_shuffled h read

/-- The order of what has no order never shows: neither in what is written for a document nor in
the canonical form of a group. -/
theorem emit_eq_of_shuffled :
    (∀ (d e : Document) (g : Group), d.Shuffled e → d.toGroup = .ok g →
      ∃ g', e.toGroup = .ok g' ∧
        (∀ version, Compose.emit version g = Compose.emit version g') ∧
        (∀ indent, Ecs.emit indent g = Ecs.emit indent g')) ∧
    (∀ g g' : Group, (g.containers.map (·.name)).Nodup → g.Shuffled g' →
      g.canonical = g'.canonical) := by
  constructor
  · intro d e g h read
    obtain ⟨g', read', names, shuffled⟩ := toGroup_shuffled h read
    have same := shuffled.canonical_eq names
    refine ⟨g', read', ?_, ?_⟩
    · intro version
      unfold Compose.emit
      rw [same]
    · intro indent
      unfold Ecs.emit
      rw [same]
  · intro g g' names shuffled
    exact shuffled.canonical_eq names

def shop : Ecs.TaskDefinition where
  containerDefinitions := [
    { name := "api"
      environment := [{ name := "A", value := .int 1 }, { name := "B", value := .text "2" }]
      dockerLabels := .ofList [("owner", .text "shop"), ("tier", .text "back")]
      portMappings := [
        { containerPort := .int 3000 }, { hostPort := some (.int 80), containerPort := .int 8080 }]
      mountPoints := [
        { sourceVolume := "cache", containerPath := "/a" },
        { sourceVolume := "cache", containerPath := "/b" }] },
    { name := "web" }]
  volumes := [
    { name := "cache", host := some { sourcePath := some "/srv" } }, { name := "logs" }]
  tags := [{ key := "team", value := "shop" }, { key := "env" }]

def reversedShop : Ecs.TaskDefinition where
  containerDefinitions := [
    { name := "web" },
    { name := "api"
      environment := [{ name := "B", value := .text "2" }, { name := "A", value := .int 1 }]
      dockerLabels := .ofList [("tier", .text "back"), ("owner", .text "shop")]
      portMappings := [
        { hostPort := some (.int 80), containerPort := .int 8080 }, { containerPort := .int 3000 }]
      mountPoints := [
        { sourceVolume := "cache", containerPath := "/b" },
        { sourceVolume := "cache", containerPath := "/a" }] }]
  volumes := [
    { name := "logs" }, { name := "cache", host := some { sourcePath := some "/srv" } }]
  tags := [{ key := "env" }, { key := "team", value := "shop" }]

theorem emit_eq_of_shuffled_shop :
    (ecs shop).Shuffled (ecs reversedShop) ∧
    ∃ g g', (ecs shop).toGroup = .ok g ∧ (ecs reversedShop).toGroup = .ok g' ∧
      Compose.emit "2" g = Compose.emit "2" g' ∧ Ecs.emit 4 g = Ecs.emit 4 g' ∧
      (g.containers.map (·.name)).Nodup ∧ g.Shuffled g' ∧ g.canonical = g'.canonical := by
  have matched : Matched Ecs.ContainerDefinition.Shuffled shop.containerDefinitions
      reversedShop.containerDefinitions := by
    refine ⟨_, .swap _ _ _, .cons ?_ (.cons ?_ .nil)⟩
    · exact .intro .nil .nil ⟨[], [], .nil, .nil, rfl, rfl⟩ .nil .nil .nil
    · exact .intro (.swap _ _ _) (by decide)
        ⟨[("owner", .text "shop"), ("tier", .text "back")], _, .swap _ _ _, by decide, rfl, rfl⟩
        (.swap _ _ _) (.swap _ _ _) .nil
  have task : shop.Shuffled reversedShop :=
    .intro matched (.swap _ _ _) (by decide) (.swap _ _ _) (by decide)
  obtain ⟨g, read⟩ : ∃ g, shop.toGroup = .ok g :=
    ⟨_, Ecs.TaskDefinition.toGroup_eq_ok_iff.2 ⟨_, rfl, Group.finish_of_nodup _ (by decide)⟩⟩
  have shuffled : (ecs shop).Shuffled (ecs reversedShop) := .ecs task
  obtain ⟨g', read', compose, emitted⟩ := emit_eq_of_shuffled.1 _ _ g shuffled read
  obtain ⟨g'', read'', names, groups⟩ := Ecs.toGroup_shuffled task read
  -- both reached from the reversed task, which is read as one group only
  have same : g'' = g' := Except.ok.inj (read''.symm.trans read')
  subst same
  exact ⟨shuffled, g, g'', read, read', compose "2", emitted 4, names, groups,
    emit_eq_of_shuffled.2 g g'' names groups⟩

end Document
end Workload
