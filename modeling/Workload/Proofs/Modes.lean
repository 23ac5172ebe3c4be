import Workload.Proofs.Ecs.Mode
import Workload.Proofs.Ingested
import Workload.Proofs.Script.Block

/-! The namespaces of containers in all outputs. Each output looks at the mode of a container and at
the host's in an order of its own. They agree because a group that is read never has both. -/
namespace Workload

/-- A namespace with its setting in a task definition, its field in a service and its flag in a
script. -/
structure Namespace extends Ecs.Setting where
  service : Compose.Service → Option String
  flag : String
  service_ofContainer : ∀ g c, service (.ofContainer g c) = Compose.effectiveMode (own c) (host g)
  mem_values : ∀ g c, (flag, (Script.effectiveMode (own c) (host g)).toList) ∈ Script.values g c

namespace Namespace

def network : Namespace where
  toSetting := Ecs.networkSetting
  service := (·.networkMode)
  flag := "--net "
  service_ofContainer _ _ := rfl
  mem_values _ _ := by simp [Script.values, Ecs.networkSetting]

def process : Namespace where
  toSetting := Ecs.pidSetting
  service := (·.pid)
  flag := "--pid "
  service_ofContainer _ _ := rfl
  mem_values _ _ := by simp [Script.values, Ecs.pidSetting]

def all : List Namespace := [network, process]

/-- The container's own mode, or else the host's where the group asks for it. -/
def effective (n : Namespace) (g : Group) (c : Container) : Option String :=
  match n.own c with
  | some mode => some mode
  | none => if n.host g then some "host" else none

/-- Where the group asks for the host's mode, no container has one of its own. -/
def Exclusive (n : Namespace) (g : Group) : Prop := n.host g → ∀ c ∈ g.containers, n.own c = none

variable {n : Namespace} {g : Group}

theorem effective_of_host (host : n.host g) {c : Container} (own : n.own c = none) :
    n.effective g c = some "host" := by
  simp [effective, host, own]

theorem effective_of_not_host (host : n.host g = false) (c : Container) :
    n.effective g c = n.own c := by
  unfold effective
  cases n.own c <;> simp [host]

theorem exclusive_of_toGroup (hn : n ∈ all) {d : Document} (read : d.toGroup = .ok g) :
    n.Exclusive g := by
  intro host c hc
  simp only [all, List.mem_cons, List.not_mem_nil, or_false] at hn
  cases d with
  | compose file =>
    obtain ⟨containers, _, finished⟩ := Compose.File.toGroup_eq_ok_iff.1 read
    obtain ⟨_, rfl⟩ := Group.finish_eq_ok_iff.1 finished
    rcases hn with rfl | rfl <;> cases host
  | ecs task =>
    obtain ⟨containers, _, finished⟩ := Ecs.TaskDefinition.toGroup_eq_ok_iff.1 read
    obtain ⟨_, rfl⟩ := Group.finish_eq_ok_iff.1 finished
    obtain ⟨own, _, rfl⟩ := List.mem_map.1 (mem_sortContainers.1 hc)
    rcases hn with rfl | rfl
    · have mode : task.networkMode = some "host" := beq_iff_eq.1 host
      simp [network, Ecs.networkSetting, mode, Ecs.sharedMode]
    · have mode : task.pidMode = some "host" := beq_iff_eq.1 host
      simp [process, Ecs.pidSetting, mode, Ecs.sharedMode]
  | k8s pod =>
    obtain ⟨_, labels, _, containers, made, finished⟩ := Kube.Pod.toGroup_eq_ok_iff.1 read
    obtain ⟨_, rfl⟩ := Group.finish_eq_ok_iff.1 finished
    obtain ⟨own, mem, rfl⟩ := List.mem_map.1 (mem_sortContainers.1 hc)
    obtain ⟨spec, _, made⟩ := exists_of_mem_forall₂ (mapM_eq_ok_iff.1 made) mem
    obtain ⟨parts, _, rfl⟩ := Kube.ContainerSpec.toContainer_eq_ok_iff.1 made
    rcases hn with rfl | rfl <;> rfl

section Outputs
variable {c : Container}

theorem compose_eq_effective (n : Namespace) (g : Group) (c : Container) :
    Compose.effectiveMode (n.own c) (n.host g) = n.effective g c := by
  unfold Compose.effectiveMode effective
  cases n.own c <;> rfl

theorem services_ofGroup (n : Namespace) (version : String)
    (ascending : g.containers.Pairwise fun a b => a.name < b.name) :
    (Compose.File.ofGroup version g).services.entries.map (fun e => (e.1, n.service e.2)) =
      g.containers.map fun c => (c.name, n.effective g c) := by
  have entries : (Compose.File.ofGroup version g).services.entries =
      g.containers.map fun c => (c.name, .ofContainer g c) :=
    Dict.entries_ofList (List.pairwise_map.2 ascending)
  rw [entries, List.map_map]
  refine List.map_congr_left ?_
  intro c _
  rw [Function.comp_apply, n.service_ofContainer, compose_eq_effective]

theorem effective_canonical (n : Namespace) (g : Group) (c : Container) :
    n.effective g.canonical c.canonical = n.effective g c := by
  unfold effective
  rw [n.own_canonical, n.host_canonical]

/-- The mode of the host takes the place of an empty one in a script only. -/
theorem script_eq_some_iff (exclusive : n.Exclusive g) (hc : c ∈ g.containers) {mode : String} :
    Script.effectiveMode (n.own c) (n.host g) = some mode ↔
      n.effective g c = some mode ∧ mode ≠ "" := by
  cases host : n.host g with
  | true =>
    rw [effective_of_host host (exclusive host c hc), exclusive host c hc]
    simp only [Script.effectiveMode, Option.bind_none, Option.none_or, if_true,
      Option.some.injEq, iff_self_and]
    rintro rfl
    decide
  | false =>
    rw [effective_of_not_host host]
    cases n.own c with
    | none => simp [Script.effectiveMode]
    | some own =>
      by_cases empty : own = ""
      · simp [Script.effectiveMode, nonEmpty, empty]
      · simp only [Script.effectiveMode, nonEmpty, String.isEmpty_iff, empty, Option.bind_some,
          if_false, Option.some_or, Option.some.injEq, iff_self_and]
        rintro rfl
        exact empty

theorem mem_flagLines_iff (exclusive : n.Exclusive g) (hc : c ∈ g.containers) (mode : String) :
    "    " ++ n.flag ++ mode ++ " \\" ∈ Script.flagLines g c ↔
      n.effective g c = some mode ∧ mode ≠ "" := by
  rw [Script.mem_flagLines_iff (n.mem_values g c), Option.mem_toList,
    script_eq_some_iff exclusive hc]

theorem written_eq_some_iff (exclusive : n.Exclusive g) (nonempty : g.containers ≠ [])
    (mode : String) : n.written (.ofGroup g.canonical) = some mode ↔
      ∀ c ∈ g.containers, n.effective g c = some mode := by
  cases host : n.host g with
  | true =>
    have written : n.written (.ofGroup g.canonical) = some "host" := by
      rw [n.written_canonical, host]
      rfl
    have effective : ∀ c ∈ g.containers, n.effective g c = some "host" := by
      intro c hc
      exact effective_of_host host (exclusive host c hc)
    rw [written]
    constructor
    · intro same c hc
      exact (effective c hc).trans same
    · intro agreed
      obtain ⟨c, hc⟩ := List.exists_mem_of_ne_nil _ nonempty
      exact (effective c hc).symm.trans (agreed c hc)
  | false =>
    rw [Ecs.Setting.written_eq_some_iff host, and_iff_right nonempty]
    simp only [effective_of_not_host host]

end Outputs

/-- Every output gives a container that was read the same mode: a service has exactly that, a script
has a line for it unless it is empty, and a task definition has it if all its containers do. -/
theorem outputs_agree_of_ingested (h : Ingested g) :
    Script.emit g = String.join (g.containers.map fun c => String.join ((Script.heading c ::
      "docker run \\" :: (Script.flagLines g c ++ Script.closing c)).map (· ++ "\n"))) ∧
    ∀ n ∈ all,
      n.Exclusive g ∧
      (∀ version, (Compose.File.ofGroup version g.canonical).services.entries.map
          (fun e => (e.1, n.service e.2)) = g.containers.map fun c => (c.name, n.effective g c)) ∧
      (∀ c ∈ g.containers, ∀ mode, "    " ++ n.flag ++ mode ++ " \\" ∈ Script.flagLines g c ↔
        n.effective g c = some mode ∧ mode ≠ "") ∧
      (g.containers ≠ [] → ∀ mode, n.written (.ofGroup g.canonical) = some mode ↔
        ∀ c ∈ g.containers, n.effective g c = some mode) := by
  refine ⟨Script.emit_eq_join g, ?_⟩
  intro n hn
  obtain ⟨d, read⟩ := h.exists_document
  have exclusive : n.Exclusive g := exclusive_of_toGroup hn read
  have ascending := Document.ascending_of_toGroup read
  refine ⟨exclusive, ?_, fun c hc => mem_flagLines_iff exclusive hc, written_eq_some_iff exclusive⟩
  intro version
  have names := nodup_names_of_ascending ascending
  rw [n.services_ofGroup version (g.ascending_canonical names)]
  rw [Group.containers_canonical ascending, List.map_map]
  refine List.map_congr_left ?_
  intro c _
  exact congrArg (c.name, ·) (n.effective_canonical g c)

def sharingText : String :=
  "\x7b\"networkMode\":\"host\",\"pidMode\":\"task\",\"containerDefinitions\":[" ++
    "\x7b\"name\":\"web\"\x7d,\x7b\"name\":\"api\"\x7d]\x7d"

def sharing : Group where
  hostNetwork := true
  containers := [
    { name := "api", memory := some 4194304, pid := some "task" },
    { name := "web", memory := some 4194304, pid := some "task" }]

def sharingTask : Ecs.TaskDefinition where
  networkMode := some "host"
  pidMode := some "task"
  containerDefinitions := [{ name := "web" }, { name := "api" }]

theorem toGroup_sharingTask : sharingTask.toGroup = .ok sharing := by
  have order : sortContainers sharing.containers.reverse = sharing.containers :=
    (sortContainers_congr (List.reverse_perm _) (by decide)).trans
      (sortContainers_of_ascending (by decide))
  let unsorted : Group := { sharing with containers := sharing.containers.reverse }
  have finished := Group.finish_of_nodup Ecs.formatName (g := unsorted) (by decide)
  rw [order] at finished
  exact Ecs.TaskDefinition.toGroup_eq_ok_iff.2 ⟨[
    { name := "web", memory := some 4194304 }, { name := "api", memory := some 4194304 }],
    rfl, finished⟩

def sharingJson : Json := .object [
  ("networkMode", .string "host"), ("pidMode", .string "task"),
  ("containerDefinitions", .array [
    .object [("name", .string "web")], .object [("name", .string "api")]])]

theorem ingested_sharing : Ingested sharing := by
  have text : sharingText = String.ofList (_ ++ _) := String.ofList_append.symm
  have parsed : Json.parse? sharingText = some sharingJson := by
    rw [text]
    exact Json.parse?_ofList rfl
  have record : Ecs.TaskDefinition.ofJson? sharingJson = some sharingTask := rfl
  have task : (Json.parse? sharingText).bind Ecs.TaskDefinition.ofJson? = some sharingTask := by
    rw [parsed, Option.bind_some, record]
  exact ingested_of_task task toGroup_sharingTask

theorem outputs_agree_of_ingested_sharing :
    Ingested sharing ∧
    (∀ c ∈ sharing.containers, c.networkMode = none) ∧
    (Compose.File.ofGroup "2" sharing.canonical).services.entries.map
        (fun e => (e.1, e.2.networkMode)) = [("api", some "host"), ("web", some "host")] ∧
    Script.emit sharing =
      "######## api ########\ndocker run \\\n    --memory=4194304b \\\n    --name api \\\n" ++
        "    --net host \\\n    --pid task \\\n    \n" ++
      "######## web ########\ndocker run \\\n    --memory=4194304b \\\n    --name web \\\n" ++
        "    --net host \\\n    --pid task \\\n    \n" ∧
    (∀ c ∈ sharing.containers, "    --net host \\" ∈ Script.flagLines sharing c ∧
      "    --pid task \\" ∈ Script.flagLines sharing c ∧
      "    --pid host \\" ∉ Script.flagLines sharing c) ∧
    (Ecs.TaskDefinition.ofGroup sharing.canonical).pidMode = some "task" := by
  obtain ⟨script, agree⟩ := outputs_agree_of_ingested ingested_sharing
  obtain ⟨exclusive, services, net, _⟩ := agree network List.mem_cons_self
  obtain ⟨_, _, pid, task⟩ := agree process (List.mem_cons_of_mem _ List.mem_cons_self)
  have own : ∀ c ∈ sharing.containers, process.effective sharing c = some "task" := by
    intro c hc
    simp only [sharing, List.mem_cons, List.not_mem_nil, or_false] at hc
    rcases hc with rfl | rfl <;> rfl
  have service (s : Compose.Service) : network.service s = s.networkMode := rfl
  have written (t : Ecs.TaskDefinition) : process.written t = t.pidMode := rfl
  have modes := services "2"
  have mode := (task (by decide) "task").2 own
  simp only [service] at modes
  rw [written] at mode
  refine ⟨ingested_sharing, exclusive rfl, modes, script.trans ?_, ?_, mode⟩
  · decide +kernel
  · intro c hc
    refine ⟨?_, (pid c hc "task").2 ⟨own c hc, by decide⟩, ?_⟩
    · exact (net c hc "host").2 ⟨effective_of_host rfl (exclusive rfl c hc), by decide⟩
    · intro written
      have host := ((pid c hc "host").1 written).1
      rw [own c hc] at host
      exact absurd host (by decide)

end Namespace
end Workload
