import Workload.Proofs.Ecs.Mode
import Workload.Proofs.Ecs.Text
import Workload.Proofs.Ecs.Volumes
import Workload.Proofs.Ingested
import Workload.Proofs.Yaml.Decode

/-! Task definitions that are written, read and written again. What a definition drops has already
taken part in the order of what it keeps, so the second one can differ from the first. -/
namespace Workload.Ecs

section Sorting
variable {α γ : Type} {order : α → α → Ordering}

/-- Sorting what is kept of elements moves what is written of them only if it moves what is kept. -/
theorem map_sortWith_map_eq_iff {kept : α → α} {written : α → γ}
    (same : ∀ a, written (kept a) = written a)
    (determined : ∀ a b, written a = written b → kept a = kept b) (xs : List α) :
    (sortWith order (xs.map kept)).map written = xs.map written ↔
      sortWith order (xs.map kept) = xs.map kept := by
  have kept_of_mem : ∀ a ∈ sortWith order (xs.map kept), kept a = a := by
    intro a ha
    obtain ⟨b, _, rfl⟩ := List.mem_map.1 (mem_sortWith.1 ha)
    exact determined (kept b) b (same b)
  constructor
  · intro h
    rw [← List.forall₂_eq_eq_eq, List.forall₂_map_left_iff, List.forall₂_map_right_iff] at h
    have images := map_eq_of_forall₂ (h.imp fun _ _ => determined _ _)
    rwa [List.map_congr_left kept_of_mem, List.map_id'] at images
  · intro h
    rw [h, List.map_map]
    exact List.map_congr_left fun a _ => same a

end Sorting

section Kept

theorem toMebibytes_kept (bytes : Option UInt64) :
    Memory.toMebibytes (some (.ofNat (max 4 ((bytes.getD 0).toNat / 1048576) * 1048576))) =
      Memory.toMebibytes bytes := by
  have least := Memory.four_le_toMebibytes bytes
  have fits := Memory.toMebibytes_lt bytes
  rw [← ofMebibytes_toMebibytes, ← UInt64.toNat_inj, Memory.toNat_toMebibytes_ofMebibytes,
    Option.getD_some]
  omega

theorem ofChecks?_kept (checks : List HealthCheck) :
    CheckDefinition.ofChecks? (checks.find? (!·.isHttp)).toList =
      CheckDefinition.ofChecks? checks := by
  have first : (checks.find? (!·.isHttp)).toList.find? (!·.isHttp) = checks.find? (!·.isHttp) := by
    cases found : checks.find? (!·.isHttp) with
    | none => rfl
    | some check =>
      have command := List.find?_some found
      exact List.find?_cons_of_pos command
  unfold CheckDefinition.ofChecks?
  rw [first]

theorem beforeFirst_append {sep : Char} (cs : List Char) {rest : List Char}
    (h : ∀ c ∈ rest.head?, c = sep) :
    Text.beforeFirst sep (Text.beforeFirst sep cs ++ rest) = Text.beforeFirst sep cs := by
  have stops : ∀ c ∈ rest.head?, (c != sep) = false := fun c hc => by simp [h c hc]
  exact Text.takeWhile_run (fun _ => List.mem_takeWhile_imp) stops

theorem ofText_kept (s : String) : VolumeFrom.ofText (keptVolumeFrom s) = VolumeFrom.ofText s := by
  have source : ':' ∉ Text.beforeFirst ':' s.toList := by
    intro mem
    exact absurd (List.mem_takeWhile_imp mem) (by decide)
  unfold VolumeFrom.ofText keptVolumeFrom Text.dropEnding?
  simp only [String.toList_append, String.toList_ofList, List.isSome_isSuffixOf?_eq_isSuffixOf]
  split
  · rename_i mode
    rw [beforeFirst_append _ (by simp), mode, List.isSuffixOf_iff_suffix.2 (List.suffix_append _ _)]
  · rename_i mode
    have bare : ":ro".toList.isSuffixOf (Text.beforeFirst ':' s.toList ++ "".toList) = false := by
      rw [Bool.eq_false_iff]
      intro ending
      have mem := (List.isSuffixOf_iff_suffix.1 ending).subset (List.mem_cons_self (a := ':'))
      exact source (by simpa using mem)
    rw [beforeFirst_append _ (by simp), bare, Bool.eq_false_iff.2 mode]

theorem taskMode_kept (host : Bool) (modes : List (Option String)) :
    taskMode (taskMode host modes = some "host")
      (modes.map fun _ => if taskMode host modes = some "host" then none else taskMode host modes) =
      taskMode host modes := by
  cases written : taskMode host modes with
  | none =>
    have absent : taskMode false (modes.map fun _ => none) = none := by
      cases modes <;> rfl
    simpa using absent
  | some mode =>
    by_cases shared : mode = "host"
    · simp [shared, taskMode]
    · have host : host = false := by
        cases host with
        | false => rfl
        | true => exact absurd (Option.some.inj written).symm shared
      rw [host, taskMode_eq_some_iff] at written
      have agreed : taskMode false (modes.map fun _ => some mode) = some mode := by
        rw [taskMode_eq_some_iff]
        simp [written.1]
      simpa [shared] using agreed

end Kept

/-- A definition that is read and written again gets the container's shares, ports and sources as
they were: no shares are written that count as none, ports that only their host addresses order are
in the order of their names as well, and so are sources once they are cut down to what is kept. -/
structure Stable (c : Container) : Prop where
  shares : c.cpuShares ≠ some 0
  ports : ∀ p ∈ c.ports, ∀ q ∈ c.ports, p.containerPort = q.containerPort →
    p.hostPort = q.hostPort → p.protocol = q.protocol → compare p.hostIp q.hostIp = .lt →
    (compare p.name q.name).isLE
  sources : ∀ s ∈ c.volumesFrom, ∀ t ∈ c.volumesFrom, s ≤ t → keptVolumeFrom s ≤ keptVolumeFrom t

def withoutIp (p : PortMapping) : PortMapping := { p with hostIp := none }

theorem order_withoutIp_iff (p q : PortMapping) :
    ((PortMapping.order p q).isLE → (PortMapping.order (withoutIp p) (withoutIp q)).isLE) ↔
      (p.containerPort = q.containerPort → p.hostPort = q.hostPort → p.protocol = q.protocol →
        compare p.hostIp q.hostIp = .lt → (compare p.name q.name).isLE) := by
  have protocol : compare p.protocol.rank q.protocol.rank = .eq ↔ p.protocol = q.protocol := by
    rw [Std.compare_eq_iff_eq]
    exact ⟨Protocol.rank_injective, congrArg _⟩
  have none_none : compare (none : Option String) none = .eq := rfl
  simp only [PortMapping.order, compareLex, compareOn, withoutIp, none_none, Ordering.eq_then]
  rw [← protocol, ← Std.compare_eq_iff_eq (a := p.containerPort),
    ← Std.compare_eq_iff_eq (a := p.hostPort)]
  generalize compare p.containerPort q.containerPort = a
  generalize compare p.hostPort q.hostPort = b
  generalize compare p.protocol.rank q.protocol.rank = c
  generalize compare p.hostIp q.hostIp = d
  generalize compare p.name q.name = e
  revert a b c d e
  decide

theorem ofMapping_withoutIp (p : PortMapping) :
    Port.ofMapping (withoutIp p) = Port.ofMapping p := rfl

/-- Nothing but the host address is lost of a port. -/
theorem withoutIp_eq_of_ofMapping {p q : PortMapping} (h : Port.ofMapping p = Port.ofMapping q) :
    withoutIp p = withoutIp q := by
  have read := toMapping_ofMapping p
  rw [h, toMapping_ofMapping q] at read
  exact (Except.ok.inj read).symm

theorem keptVolumeFrom_eq_of_ofText {s t : String} (h : VolumeFrom.ofText s = VolumeFrom.ofText t) :
    keptVolumeFrom s = keptVolumeFrom t := by
  rw [← toText_ofText, h, toText_ofText]

/-- A container that is read from its definition, in a task with these modes, in canonical order. -/
def reread (networkMode pid : Option String) (c : Container) : Container :=
  Container.canonical { keptContainer c with networkMode, pid }

theorem ofContainer_reread (networkMode pid : Option String) (c : Container)
    (points : List MountPoint) :
    ContainerDefinition.ofContainer (reread networkMode pid c) points =
      { ContainerDefinition.ofContainer c points with
        cpu := (c.cpuShares.filter (0 < ·)).map .int
        portMappings := (sortWith PortMapping.order (c.ports.map withoutIp)).map Port.ofMapping
        volumesFrom :=
          (sortWith compare (c.volumesFrom.map keptVolumeFrom)).map VolumeFrom.ofText } := by
  have image : (c.image.filter (· ≠ "")).getD "" = c.image.getD "" := by
    rw [← nonEmpty_getD, getD_nonEmpty]
  simp only [ContainerDefinition.ofContainer, reread, Container.canonical, keptContainer, image,
    toMebibytes_kept, ofChecks?_kept]
  rfl

theorem ofContainer_reread_iff {networkMode pid : Option String} (c : Container)
    (points : List MountPoint) :
    ContainerDefinition.ofContainer (reread networkMode pid c.canonical) points =
      .ofContainer c.canonical points ↔ Stable c := by
  have shares : (c.cpuShares.filter (0 < ·)).map Scalar.int = c.cpuShares.map Scalar.int ↔
      c.cpuShares ≠ some 0 := by
    cases c.cpuShares with
    | none => simp
    | some n =>
      by_cases zero : n = 0
      · simp [zero]
      · simp [zero, Option.filter, UInt64.pos_iff_ne_zero.2 zero]
  have ports : (sortWith PortMapping.order (c.canonical.ports.map withoutIp)).map Port.ofMapping =
      c.canonical.ports.map Port.ofMapping ↔
        ∀ p ∈ c.ports, ∀ q ∈ c.ports, (PortMapping.order p q).isLE →
          (PortMapping.order (withoutIp p) (withoutIp q)).isLE :=
    (map_sortWith_map_eq_iff ofMapping_withoutIp (fun _ _ => withoutIp_eq_of_ofMapping) _).trans
      sortWith_map_sortWith_iff
  have sources : (sortWith compare (c.canonical.volumesFrom.map keptVolumeFrom)).map
      VolumeFrom.ofText = c.canonical.volumesFrom.map VolumeFrom.ofText ↔
        ∀ s ∈ c.volumesFrom, ∀ t ∈ c.volumesFrom, (compare s t).isLE →
          (compare (keptVolumeFrom s) (keptVolumeFrom t)).isLE :=
    (map_sortWith_map_eq_iff ofText_kept (fun _ _ => keptVolumeFrom_eq_of_ofText) _).trans
      sortWith_map_sortWith_iff
  simp only [order_withoutIp_iff] at ports
  simp only [isLE_compare_string] at sources
  rw [ofContainer_reread]
  constructor
  · intro same
    exact ⟨shares.1 (congrArg ContainerDefinition.cpu same),
      ports.1 (congrArg ContainerDefinition.portMappings same),
      sources.1 (congrArg ContainerDefinition.volumesFrom same)⟩
  · rintro ⟨stableShares, stablePorts, stableSources⟩
    rw [ports.2 stablePorts, sources.2 stableSources]
    have cpu := shares.2 stableShares
    exact congrArg (fun cpu => { ContainerDefinition.ofContainer c.canonical points with cpu }) cpu

theorem define_map_eq_iff {f h : Container → Container} {P : Container → Prop}
    {cs : List Container} (volumes : ∀ c ∈ cs, (f c).volumes = (h c).volumes)
    (same : ∀ c ∈ cs, ∀ points,
      ContainerDefinition.ofContainer (f c) points = .ofContainer (h c) points ↔ P c)
    (table : VolumeTable) :
    (define table (cs.map f)).2 = (define table (cs.map h)).2 ∧
    ((define table (cs.map f)).1 = (define table (cs.map h)).1 ↔ ∀ c ∈ cs, P c) := by
  induction cs generalizing table with
  | nil => simp
  | cons c cs ih =>
    rw [List.forall_mem_cons] at volumes same
    obtain ⟨tables, definitions⟩ := ih volumes.2 same.2 (mount table (h c).volumes).2
    simp only [List.map_cons, define_cons, volumes.1, tables, List.cons.injEq, definitions,
      same.1 (mount table (h c).volumes).1, List.forall_mem_cons, true_and]

theorem canonical_keptGroup {g : Group} (names : (g.containers.map (·.name)).Nodup) :
    ∃ networkMode pid, (keptGroup g.canonical).canonical.containers =
      (sortContainers g.containers).map fun c => reread networkMode pid c.canonical := by
  rw [Group.containers_canonical (ascending_keptGroup names)]
  unfold keptGroup Group.canonical
  simp only [List.map_map]
  exact ⟨_, _, rfl⟩

/-- The modes of a task are those of the task that is read from it. -/
theorem written_keptGroup {s : Setting} (hs : s ∈ settings) {g : Group}
    (names : (g.containers.map (·.name)).Nodup) :
    s.written (.ofGroup (keptGroup g.canonical).canonical) = s.written (.ofGroup g.canonical) := by
  rw [s.written_canonical, sortContainers_of_ascending (ascending_keptGroup names)]
  simp only [settings, List.mem_cons, List.not_mem_nil, or_false] at hs
  rcases hs with rfl | rfl
  · have kept := taskMode_kept g.canonical.hostNetwork (g.canonical.containers.map (·.networkMode))
    rw [List.map_map] at kept
    unfold networkSetting keptGroup
    rw [List.map_map]
    exact kept
  · have kept := taskMode_kept g.canonical.hostPid (g.canonical.containers.map (·.pid))
    rw [List.map_map] at kept
    unfold pidSetting keptGroup
    rw [List.map_map]
    exact kept

theorem ofGroup_keptGroup_iff {g : Group} (names : (g.containers.map (·.name)).Nodup) :
    TaskDefinition.ofGroup (keptGroup g.canonical).canonical = .ofGroup g.canonical ↔
      ∀ c ∈ g.containers, Stable c := by
  obtain ⟨networkMode, pid, containers⟩ := canonical_keptGroup names
  have volumes (c : Container) :
      (reread networkMode pid c.canonical).volumes = c.canonical.volumes :=
    sortWith_sortWith c.volumes
  have members : ∀ c ∈ sortContainers g.containers,
      (reread networkMode pid c.canonical).volumes = c.canonical.volumes := fun c _ => volumes c
  obtain ⟨tables, definitions⟩ :=
    define_map_eq_iff members (fun c _ => ofContainer_reread_iff c) .empty
  rw [← containers] at tables definitions
  simp only [mem_sortContainers] at definitions
  rw [← definitions]
  constructor
  · intro same
    exact congrArg TaskDefinition.containerDefinitions same
  · intro same
    have fields (g : Group) : TaskDefinition.ofGroup g =
        { family := g.name.getD ""
          networkMode := networkSetting.written (.ofGroup g)
          pidMode := pidSetting.written (.ofGroup g)
          containerDefinitions := (define .empty g.containers).1
          volumes := (define .empty g.containers).2.entries.entries.map fun e => .ofEntry e.1 e.2
          tags := g.labels.entries.map fun e => { key := e.1, value := e.2 } } := rfl
    have name : (keptGroup g.canonical).canonical.name.getD "" = g.canonical.name.getD "" := by
      have kept : (g.name.filter (· ≠ "")).getD "" = g.name.getD "" := by
        rw [← nonEmpty_getD, getD_nonEmpty]
      exact kept
    rw [fields, fields g.canonical, name, written_keptGroup List.mem_cons_self names,
      written_keptGroup (List.mem_cons_of_mem _ List.mem_cons_self) names, same, tables]
    rfl

theorem emit_eq_iff {indent : Nat} {g h : Group} :
    emit indent g = emit indent h ↔
      TaskDefinition.ofGroup g.canonical = .ofGroup h.canonical := by
  constructor
  · intro same
    have read := read_emit indent g
    rw [same, read_emit] at read
    exact (Option.some.inj read).symm
  · intro same
    rw [emit, same, ← emit]

/-- A definition that is read and written again comes out the same just where the order of what it
keeps does not rest on what it drops, and no container has shares that count as none. -/
theorem emit_ingest_iff_of_ingested (g : Group) (h : Ingested g) :
    ∃ g', (TaskDefinition.ofGroup g.canonical).toGroup = .ok g' ∧
      (TaskDefinition.ofGroup g'.canonical = .ofGroup g.canonical ↔
        ∀ c ∈ g.containers, Stable c) ∧
      ∀ indent, ingest (emit indent g) = .ok g' ∧
        (emit indent g' = emit indent g ↔ ∀ c ∈ g.containers, Stable c) := by
  obtain ⟨d, read⟩ := h.exists_document
  have names := nodup_names_of_ascending (Document.ascending_of_toGroup read)
  have stable := ofGroup_keptGroup_iff names
  refine ⟨_, toGroup_ofGroup_canonical names, stable, ?_⟩
  intro indent
  exact ⟨ingest_emit indent names, emit_eq_iff.trans stable⟩

theorem ingested_of_yaml {text : String} {d : Yaml.Document} {f : Compose.File} {g : Group}
    (parsed : Yaml.Document.parse? text = some d)
    (file : Yaml.Decode.run d {} Compose.File.ofNode = some f) (read : f.toGroup = .ok g) :
    Ingested g :=
  ingested_of_file ((Compose.File.parse?_eq parsed).trans file) read

/-- Two services. One of them publishes a port on two addresses, and its lists are out of order. -/
def stockText : String :=
  "\x7bservices: \x7bweb: \x7bports: [10.0.0.2:80:80, 10.0.0.1:80:80, 53/udp], " ++
    "volumes: [/srv:/var:ro, /tmp], volumes_from: [db:log:ro, cache]\x7d, " ++
      "db: \x7bcpu_shares: 2, volumes: [/srv/:/a]\x7d\x7d\x7d"

def stockDocument : Yaml.Document where
  root := some (.mapping none [(.word "services", .mapping none [
    (.word "web", .mapping none [
      (.word "ports", .sequence none [
        .word "10.0.0.2:80:80", .word "10.0.0.1:80:80", .word "53/udp"]),
      (.word "volumes", .sequence none [.word "/srv:/var:ro", .word "/tmp"]),
      (.word "volumes_from", .sequence none [.word "db:log:ro", .word "cache"])]),
    (.word "db", .mapping none [
      (.word "cpu_shares", .word "2"), (.word "volumes", .sequence none [.word "/srv/:/a"])])])])
  anchors := {}
  size := 33

theorem parse?_stockText : Yaml.Document.parse? stockText = some stockDocument :=
  Yaml.Document.parse?_of_events rfl rfl (by decide +kernel)

def stockFile : Compose.File := .ofServices none [
  ("web", {
    ports := [.text "10.0.0.2:80:80", .text "10.0.0.1:80:80", .text "53/udp"]
    volumes := [.text "/srv:/var:ro", .text "/tmp"]
    volumesFrom := ["db:log:ro", "cache"] }),
  ("db", { cpuShares := some (.int 2), volumes := [.text "/srv/:/a"] })]

def front : Container where
  name := "web"
  ports := [
    { containerPort := 80, hostPort := 80, hostIp := some "10.0.0.2" },
    { containerPort := 80, hostPort := 80, hostIp := some "10.0.0.1" },
    { containerPort := 53, protocol := .udp }]
  volumes := [{ host := some "/srv", container := "/var", readOnly := true }, { container := "/tmp" }]
  volumesFrom := ["db:log:ro", "cache"]

def back : Container where
  name := "db"
  cpuShares := some 2
  volumes := [{ host := some "/srv/", container := "/a" }]

def stock : Group where
  containers := [back, front]

theorem ascending_stock : stock.containers.Pairwise fun a b => a.name < b.name := by decide

theorem ingested_stock : Ingested stock := by
  have finished := Group.finish_of_nodup Compose.formatName (g := stock) (by decide)
  rw [sortContainers_of_ascending ascending_stock] at finished
  have read : stockFile.toGroup = .ok stock :=
    Compose.File.toGroup_eq_ok_iff.2 ⟨stock.containers, rfl, finished⟩
  exact ingested_of_yaml parse?_stockText rfl read

theorem stable_stock : ∀ c ∈ stock.containers, Stable c := by
  rw [stock, List.forall_mem_cons, List.forall_mem_singleton]
  exact ⟨⟨by decide, by decide, by decide⟩, ⟨by decide, by decide, by decide⟩⟩

theorem emit_ingest_iff_of_ingested_stock :
    Ingested stock ∧ (∀ c ∈ stock.containers, Stable c) ∧
    ∃ g', ingest (emit 2 stock) = .ok g' ∧ emit 2 g' = emit 2 stock := by
  obtain ⟨g', _, _, texts⟩ := emit_ingest_iff_of_ingested stock ingested_stock
  obtain ⟨read, same⟩ := texts 2
  exact ⟨ingested_stock, stable_stock, g', read, same.2 stable_stock⟩

def idle : Group where
  containers := [{ name := "web", cpuShares := some 0 }]

def idleDocument : Yaml.Document where
  root := some (.mapping none [(.word "services", .mapping none [
    (.word "web", .mapping none [(.word "cpu_shares", .word "0")])])])
  anchors := {}
  size := 10

theorem ascending_idle : idle.containers.Pairwise fun a b => a.name < b.name :=
  List.pairwise_singleton _ _

theorem ingested_idle : Ingested idle := by
  have parsed : Yaml.Document.parse? "{services: {web: {cpu_shares: 0}}}" = some idleDocument :=
    Yaml.Document.parse?_of_events rfl rfl (by decide +kernel)
  have finished := Group.finish_of_nodup Compose.formatName (g := idle) (List.nodup_singleton _)
  rw [sortContainers_of_ascending ascending_idle] at finished
  have file : Yaml.Decode.run idleDocument {} Compose.File.ofNode =
      some (.ofServices none [("web", { cpuShares := some (.int 0) })]) := rfl
  exact ingested_of_yaml parsed file (Compose.File.toGroup_eq_ok_iff.2 ⟨_, rfl, finished⟩)

theorem canonical_idle : idle.canonical = idle :=
  Group.canonical_eq (sortContainers_of_ascending ascending_idle) (congrArg (· :: [])
    (Container.canonical_eq (sortWith_of_pairwise .nil) (sortWith_of_pairwise .nil)
      (sortWith_of_pairwise .nil) (sortWith_of_pairwise .nil)))

theorem zero_shares_vanish :
    ¬ ∀ g g', Ingested g → ∀ indent, ingest (emit indent g) = .ok g' →
      emit indent g' = emit indent g := by
  intro h
  have names : (idle.containers.map (·.name)).Nodup := List.nodup_singleton _
  have same := h _ _ ingested_idle 4 (ingest_emit 4 names)
  have differ : (emit 4 (keptGroup idle) == emit 4 idle) = false := by cbv
  rw [canonical_idle] at same
  rw [same] at differ
  simp at differ

end Workload.Ecs
