import Workload.Ecs.Emit
import Workload.Proofs.Canonical
import Workload.Proofs.Ecs.Ingest
import Workload.Proofs.Ecs.Text
import Workload.Proofs.Memory
import Workload.Proofs.Scalar
import Workload.Proofs.VolumeTable

/-! What is left of a group that is written as a task definition and read again. -/
namespace Workload.Ecs

/-- An entry keeps the container it names and whether it ends in the mode `ro`. -/
def keptVolumeFrom (s : String) : String :=
  String.ofList (Text.beforeFirst ':' s.toList) ++
    if ":ro".toList.isSuffixOf s.toList then ":ro" else ""

/-- What a definition keeps of a container. Memory is counted in whole MiB (2^20 bytes), of which
there are at least four; of the checks only the first command stays. -/
def keptContainer (c : Container) : Container :=
  { c with
    image := c.image.filter (· ≠ "")
    cpuShares := c.cpuShares.filter (0 < ·)
    memory := some (.ofNat (max 4 ((c.memory.getD 0).toNat / 1048576) * 1048576))
    ports := c.ports.map fun p => { p with hostIp := none }
    volumesFrom := c.volumesFrom.map keptVolumeFrom
    healthChecks := (c.healthChecks.find? (!·.isHttp)).toList
    build := none, expose := [], networks := [], pullPolicy := none, stopSignal := none
    networkMode := none, pid := none }

/-- What a task definition keeps of a group. A mode of the task is the host's or that of every
container. -/
def keptGroup (g : Group) : Group :=
  let task := TaskDefinition.ofGroup g
  let mode (m : Option String) := if m = some "host" then none else m
  { g with
    name := g.name.filter (· ≠ "")
    hostNetwork := task.networkMode = some "host"
    hostPid := task.pidMode = some "host"
    replicas := none
    containers := g.containers.map fun c =>
      { keptContainer c with networkMode := mode task.networkMode, pid := mode task.pidMode } }

theorem toText_ofText (s : String) : (VolumeFrom.ofText s).toText = keptVolumeFrom s := by
  simp only [VolumeFrom.toText, VolumeFrom.ofText, keptVolumeFrom, Text.dropEnding?,
    List.isSome_isSuffixOf?_eq_isSuffixOf]
  split <;> simp

@[simp] theorem parse_name (p : Protocol) : Protocol.parse p.name = .ok p := by
  cases p <;> rfl

theorem toMapping_ofMapping (p : PortMapping) :
    (Port.ofMapping p).toMapping = .ok { p with hostIp := none } := by
  have host : (Port.ofMapping p).hostPort.mapM Scalar.toUInt16 =
      .ok (if 0 < p.hostPort then some p.hostPort else none) := by
    unfold Port.ofMapping
    split <;> simp [Functor.map, Except.map, pure, Except.pure]
  -- a host port is written if it is set, and one that is missing is read as zero
  have zero : (if 0 < p.hostPort then some p.hostPort else none).getD 0 = p.hostPort := by
    split
    · rfl
    · rename_i h
      have := UInt16.lt_iff_toNat_lt.not.1 h
      apply UInt16.toNat_inj.1
      simp at this ⊢
      omega
  unfold Port.toMapping
  rw [host]
  simp [Port.ofMapping, bind, Except.bind, pure, Except.pure, zero]

theorem toCheck?_ofChecks? (checks : List HealthCheck) :
    (CheckDefinition.ofChecks? checks).mapM CheckDefinition.toCheck? =
      .ok ((checks.find? (!·.isHttp)).map some) := by
  unfold CheckDefinition.ofChecks?
  cases h : checks.find? (!·.isHttp) with
  | none => rfl
  | some check =>
    obtain ⟨probe, interval, timeout, threshold⟩ := check
    cases probe with
    | http request => simpa [HealthCheck.isHttp] using List.find?_some h
    | exec command =>
      have seconds := option_mapM_map_self Scalar.toUInt32_int
      simp [HealthCheck.execCommand?, CheckDefinition.toCheck?, Command.ofTest_toTest, seconds,
        bind, Except.bind, pure, Except.pure, Functor.map, Except.map]

theorem ofMebibytes_toMebibytes (bytes : Option UInt64) :
    Memory.ofMebibytes (some (Memory.toMebibytes bytes)) =
      .ofNat (max 4 ((bytes.getD 0).toNat / 1048576) * 1048576) := by
  have read := Memory.toNat_reread bytes
  have fits := Memory.toMebibytes_lt bytes
  rw [Memory.toNat_toMebibytes, max_comm] at read fits
  exact UInt64.toNat_inj.1 (read.trans (UInt64.toNat_ofNat_of_lt' fits).symm)

def keptParts (c : Container) : ContainerDefinition.Parts where
  environment := c.environment.entries
  labels := c.labels
  ports := c.ports.map fun p => { p with hostIp := none }
  memory := some (Memory.toMebibytes c.memory)
  cpu := c.cpuShares
  logging := c.logging
  check := (c.healthChecks.find? (!·.isHttp)).map some

theorem decodes_ofContainer (c : Container) (points : List MountPoint) :
    (ContainerDefinition.ofContainer c points).Decodes (keptParts c) where
  environment := by
    have pair (e : String × String) :
        ({ name := e.1, value := .text e.2 } : Variable).toPair = .ok e := rfl
    exact mapM_map_self pair c.environment.entries
  labels := Pairs.texts_map_text c.labels
  ports := mapM_map fun p _ => toMapping_ofMapping p
  memory := rfl
  cpu := by
    have shares (n : UInt64) : (Scalar.int n).toUInt64 = .ok n := rfl
    exact option_mapM_map_self shares c.cpuShares
  logging := by
    have log (l : Logging) :
        ({ driver := l.driver, options := l.options.map .text } : LogConfiguration).toLogging =
          .ok l := by
      simp [LogConfiguration.toLogging, bind, Except.bind, pure, Except.pure]
    exact option_mapM_map_self log c.logging
  check := toCheck?_ofChecks? c.healthChecks

theorem toContainer_ofContainer {table : VolumeTable} {c : Container} {points : List MountPoint}
    (mounts : points.map (·.toVolume table) = c.volumes) :
    (ContainerDefinition.ofContainer c points).toContainer table = .ok (keptContainer c) := by
  have envFiles : (c.envFiles.map fun value => ({ value } : EnvironmentFile)).map (·.value) =
      c.envFiles := by
    rw [List.map_map]
    exact List.map_id _
  have volumesFrom : (c.volumesFrom.map VolumeFrom.ofText).map VolumeFrom.toText =
      c.volumesFrom.map keptVolumeFrom := by
    rw [List.map_map]
    exact List.map_congr_left fun s _ => toText_ofText s
  have essential : (if c.essential then some true else none).getD false = c.essential := by
    cases c.essential <;> rfl
  have check : ((c.healthChecks.find? (!·.isHttp)).map some).join =
      c.healthChecks.find? (!·.isHttp) := by
    cases c.healthChecks.find? (!·.isHttp) <;> rfl
  rw [ContainerDefinition.toContainer_eq_ok_iff]
  refine ⟨keptParts c, decodes_ofContainer c points, ?_⟩
  simp only [ContainerDefinition.assemble, ContainerDefinition.ofContainer, keptParts, mounts,
    nonEmpty_getD, Command.join_map_split, Dict.ofList_entries, ofMebibytes_toMebibytes, envFiles,
    volumesFrom, essential, check]
  rfl

theorem extends_mount (table : VolumeTable) (volumes : List Volume) :
    table.Extends (mount table volumes).2 := by
  induction volumes generalizing table with
  | nil => exact .refl table
  | cons v vs ih => exact (table.extends_register v).trans (ih (table.register v).2)

/-- Mount points keep leading to their volumes while the table grows. -/
theorem toVolume_mount {table wide : VolumeTable} {volumes : List Volume}
    (h : (mount table volumes).2.Extends wide) :
    (mount table volumes).1.map (·.toVolume wide) = volumes := by
  induction volumes generalizing table with
  | nil => rfl
  | cons v vs ih =>
    -- what comes after `v` only adds names, so its own one still resolves in `wide`
    have resolved : wide.resolve (table.register v).1 = v.host :=
      VolumeTable.resolve_register ((extends_mount _ vs).trans h)
    have rest : (mount (table.register v).2 vs).1.map (·.toVolume wide) = vs := ih h
    unfold mount
    rw [List.map_cons, rest, MountPoint.toVolume, resolved]

theorem extends_define (table : VolumeTable) (containers : List Container) :
    table.Extends (define table containers).2 := by
  induction containers generalizing table with
  | nil => exact .refl table
  | cons c cs ih => exact (extends_mount table c.volumes).trans (ih (mount table c.volumes).2)

theorem toContainer_define {table wide : VolumeTable} {containers : List Container}
    (h : (define table containers).2.Extends wide) :
    (define table containers).1.mapM (·.toContainer wide) = .ok (containers.map keptContainer) := by
  induction containers generalizing table with
  | nil => rfl
  | cons c cs ih =>
    have mounts := toVolume_mount ((extends_define _ cs).trans h)
    unfold define
    rw [List.mapM_cons, toContainer_ofContainer mounts]
    simp only [bind, Except.bind]
    rw [ih h]
    rfl

/-- The table that is written is the one that is read. -/
theorem volumeTable_ofGroup (g : Group) :
    (TaskDefinition.ofGroup g).volumeTable = (define .empty g.containers).2 := by
  have source (e : String × Option String) :
      (e.1, (TaskVolume.ofEntry e.1 e.2).host.bind (·.sourcePath)) = e := by
    obtain ⟨name, host⟩ := e
    cases host <;> rfl
  have entries (es : List (String × Option String)) :
      (es.map fun e => TaskVolume.ofEntry e.1 e.2).map
        (fun v => (v.name, v.host.bind (·.sourcePath))) = es := by
    rw [List.map_map]
    exact (List.map_congr_left fun e _ => source e).trans (List.map_id es)
  rw [TaskDefinition.volumeTable_eq]
  apply congrArg VolumeTable.mk
  exact (congrArg Dict.ofList (entries _)).trans (Dict.ofList_entries _)

theorem toGroup_ofGroup {g : Group} (names : (g.containers.map (·.name)).Nodup) :
    (TaskDefinition.ofGroup g).toGroup =
      .ok { keptGroup g with containers := sortContainers (keptGroup g).containers } := by
  have definitions : (TaskDefinition.ofGroup g).containerDefinitions.mapM
      (·.toContainer (TaskDefinition.ofGroup g).volumeTable) =
        .ok (g.containers.map keptContainer) := by
    rw [volumeTable_ofGroup]
    exact toContainer_define (.refl _)
  have shared (mode : Option String) :
      sharedMode mode = if mode = some "host" then none else mode := by
    cases mode <;> simp [sharedMode, Option.filter]
  have host (mode : Option String) : (mode == some "host") = decide (mode = some "host") := by
    rw [Bool.eq_iff_iff]
    simp
  have name : nonEmpty (TaskDefinition.ofGroup g).family = g.name.filter (· ≠ "") :=
    nonEmpty_getD g.name
  have labels : Dict.ofList ((TaskDefinition.ofGroup g).tags.map fun tag => (tag.key, tag.value)) =
      g.labels := by
    unfold TaskDefinition.ofGroup
    rw [List.map_map]
    exact (congrArg Dict.ofList (List.map_id _)).trans (Dict.ofList_entries _)
  have assembled : (TaskDefinition.ofGroup g).assemble (g.containers.map keptContainer) =
      keptGroup g := by
    unfold TaskDefinition.assemble
    simp only [shared, host, name, labels, List.map_map]
    rfl
  have kept : ((keptGroup g).containers.map (·.name)).Nodup := by
    simpa [keptGroup, keptContainer, Function.comp_def] using names
  rw [TaskDefinition.toGroup_eq_ok_iff]
  refine ⟨_, definitions, ?_⟩
  rw [assembled]
  exact Group.finish_of_nodup formatName kept

theorem ascending_keptGroup {g : Group} (names : (g.containers.map (·.name)).Nodup) :
    (keptGroup g.canonical).containers.Pairwise fun a b => a.name < b.name :=
  List.pairwise_map.2 (g.ascending_canonical names)

theorem toGroup_ofGroup_canonical {g : Group} (names : (g.containers.map (·.name)).Nodup) :
    (TaskDefinition.ofGroup g.canonical).toGroup = .ok (keptGroup g.canonical) := by
  have read := toGroup_ofGroup (nodup_names_of_ascending (g.ascending_canonical names))
  rwa [sortContainers_of_ascending (ascending_keptGroup names)] at read

theorem ingest_emit (indent : Nat) {g : Group} (names : (g.containers.map (·.name)).Nodup) :
    ingest (emit indent g) = .ok (keptGroup g.canonical) := by
  unfold ingest
  rw [read_emit]
  exact toGroup_ofGroup_canonical names

/-- Writing and reading once more leaves exactly what a definition keeps of the group, once its
containers and their lists are in order. -/
theorem ingest_emit_task (g : Group) (names : (g.containers.map (·.name)).Nodup) :
    ∃ h, g.Arranged h ∧ (TaskDefinition.ofGroup g.canonical).toGroup = .ok (keptGroup h) ∧
      ∀ indent, ingest (emit indent g) = .ok (keptGroup h) := by
  have arranged : g.Arranged g.canonical := Group.arranged_iff.2 rfl
  exact ⟨_, arranged, toGroup_ofGroup_canonical names, fun indent => ingest_emit indent names⟩

/-- A container whose lists are out of order. The paths of its volumes make one name, and one of its
health checks is such that a definition cannot hold it. -/
def frontEnd : Container where
  name := "web"
  command := some "run  all"
  cpuShares := some 0
  ports := [{ hostIp := some "::1", containerPort := 80 }, .published 5 79]
  volumes := [
    { host := some "/d/", container := "/y", readOnly := true },
    { host := some "/d", container := "/x" }]
  volumesFrom := ["db:all:ro", "cache"]
  networkMode := some "bridge"
  healthChecks := [{ probe := .http { port := 80 } }, .exec "true"]

def database : Container where
  name := "db"
  essential := true
  memory := some 9000000
  volumes := [{ host := some "-d", container := "/x" }]
  networkMode := some "bridge"

def twoTier : Group where
  name := some ""
  replicas := some 3
  containers := [frontEnd, database]

theorem canonical_frontEnd : frontEnd.canonical = { frontEnd with
    ports := frontEnd.ports.reverse, volumes := frontEnd.volumes.reverse
    volumesFrom := frontEnd.volumesFrom.reverse } :=
  Container.canonical_eq (sortWith_eq_reverse (by decide))
    (sortWith_eq_reverse (by decide)) (sortWith_of_pairwise .nil)
    (sortWith_eq_reverse (by decide))

theorem canonical_twoTier :
    twoTier.canonical = { twoTier with containers := [database, frontEnd.canonical] } := by
  have order : sortContainers twoTier.containers = [database, frontEnd] :=
    (sortContainers_congr (List.Perm.swap database frontEnd []) (by decide)).trans
      (sortContainers_of_ascending (by decide))
  have sorted : database.canonical = database :=
    Container.canonical_eq (sortWith_of_pairwise .nil) (sortWith_of_pairwise (by decide))
      (sortWith_of_pairwise .nil) (sortWith_of_pairwise .nil)
  exact Group.canonical_eq order (congrArg (· :: _) sorted)

def keptTwoTier : Group where
  containers := [
    { name := "db"
      essential := true
      memory := some 8388608
      volumes := [{ host := some "-d", container := "/x" }]
      networkMode := some "bridge" },
    { name := "web"
      command := some "run  all"
      memory := some 4194304
      ports := [.published 5 79, .unpublished 80]
      volumes := [
        { host := some "/d", container := "/x" },
        { host := some "/d/", container := "/y", readOnly := true }]
      volumesFrom := ["cache", "db:ro"]
      networkMode := some "bridge"
      healthChecks := [.exec "true"] }]

theorem ingest_emit_task_twoTier :
    (twoTier.containers.map (·.name)).Nodup ∧
    (TaskDefinition.ofGroup twoTier.canonical).toGroup = .ok keptTwoTier ∧
    ingest (emit 2 twoTier) = .ok keptTwoTier := by
  have names : (twoTier.containers.map (·.name)).Nodup := by decide
  obtain ⟨h, arranged, read, texts⟩ := ingest_emit_task twoTier names
  have kept : keptGroup h = keptTwoTier := by
    rw [Group.arranged_iff.1 arranged, canonical_twoTier, canonical_frontEnd]
    rfl
  rw [kept] at read texts
  exact ⟨names, read, texts 2⟩

end Workload.Ecs
