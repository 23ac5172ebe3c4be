import Workload.Compose.Emit
import Workload.Proofs.Build
import Workload.Proofs.Canonical
import Workload.Proofs.Compose.Ingest
import Workload.Proofs.Duration
import Workload.Proofs.Port
import Workload.Proofs.Volume
import Workload.Proofs.Yaml.Node

/-! What is left of a group that is written as a compose file and read again. -/
namespace Workload.Compose

/-- The ports and volumes whose texts can be told apart: a container port wherever there is a host
port, no colon in a host address, and no read-only volume without a host path. -/
structure Expressible (c : Container) : Prop where
  ports : ∀ p ∈ c.ports, 0 < p.containerPort ∨ (p.hostPort = 0 ∧ p.containerPort = 0)
  addresses : ∀ p ∈ c.ports, ∀ ip ∈ p.hostIp, ':' ∉ ip.toList
  paths : ∀ v ∈ c.volumes, v.PlainPaths
  modes : ∀ v ∈ c.volumes, ¬ (v.host = none ∧ v.readOnly)

/-- What a service keeps of a container. The host's modes of the group become its own; of the
checks only the first command stays. -/
def keptContainer (g : Group) (c : Container) : Container :=
  { c with
    command := c.command.filter (· ≠ "")
    entrypoint := c.entrypoint.filter (· ≠ "")
    essential := false
    cpuShares := c.cpuShares.filter (0 < ·)
    memory := c.memory.filter (0 < ·)
    ports := (c.ports.filter fun p => p.hostPort ≠ 0 ∨ p.containerPort ≠ 0).map PortMapping.kept
    networkMode := c.networkMode.or (if g.hostNetwork then some "host" else none)
    pid := c.pid.or (if g.hostPid then some "host" else none)
    healthChecks := (c.healthChecks.find? (!·.isHttp)).toList }

def keptGroup (g : Group) : Group := { containers := g.containers.map (keptContainer g) }

theorem getD_mapM {f : Value → Except FieldError α} {default a : α} {v : Option Value}
    (absent : v = none → a = default) (present : ∀ w, v = some w → f w = .ok a) :
    (v.mapM f).map (·.getD default) = .ok a := by
  cases v with
  | none => exact congrArg Except.ok (absent rfl).symm
  | some w =>
    rw [Option.mapM_some, present w rfl]
    rfl

theorem eq_nil_of_textList {xs : List String} (h : textList xs = none) : xs = [] := by
  cases xs with
  | nil => rfl
  | cons x xs => contradiction

theorem eq_of_textList {xs : List String} {v : Value} (h : textList xs = some v) :
    v = .list (xs.map .string) := by
  cases xs with
  | nil => contradiction
  | cons x xs => exact (Option.some.inj h).symm

theorem decodeStrings_textList (xs : List String) : decodeStrings (textList xs) = .ok xs := by
  refine getD_mapM eq_nil_of_textList ?_
  intro v hv
  rw [eq_of_textList hv]
  exact Command.decodeList_list xs

theorem decodeNetworks_textList (xs : List String) : decodeNetworks (textList xs) = .ok xs := by
  refine getD_mapM eq_nil_of_textList ?_
  intro v hv
  rw [eq_of_textList hv]
  exact Command.decodeNetworks_list xs

theorem decodePairs_textTable (d : Dict String) : decodePairs (textTable d) = .ok d := by
  refine getD_mapM ?_ ?_
  · intro absent
    unfold textTable at absent
    split at absent
    · rename_i empty
      exact Dict.ext (List.isEmpty_iff.1 empty)
    · contradiction
  · intro v hv
    unfold textTable at hv
    split at hv
    · contradiction
    · cases hv
      exact Pairs.decode_stringEntries d

theorem decodeCommand_string (command : Option String) :
    decodeCommand (command.map .string) = .ok (command.filter (· ≠ "")) := by
  cases command with
  | none => rfl
  | some command =>
    rw [← nonEmpty_getD]
    rfl

theorem toLogging_ofLogging (l : Logging) : (LoggingSection.ofLogging l).toLogging = .ok l := by
  have driver : (if l.driver.isEmpty then none else some l.driver).getD "" = l.driver :=
    getD_nonEmpty l.driver
  simp only [LoggingSection.toLogging, LoggingSection.ofLogging, driver, Pairs.texts_map_text, bind,
    Except.bind, pure, Except.pure]

theorem toCheck?_ofChecks? (checks : List HealthCheck) :
    (HealthSection.ofChecks? checks).mapM HealthSection.toCheck? =
      .ok ((checks.find? (!·.isHttp)).map some) := by
  unfold HealthSection.ofChecks?
  cases h : checks.find? (!·.isHttp) with
  | none => rfl
  | some check =>
    obtain ⟨probe, interval, timeout, threshold⟩ := check
    cases probe with
    | http request => simpa [HealthCheck.isHttp] using List.find?_some h
    | exec command =>
      have test : Command.decodeTest .yaml (.list ((Command.toTest command).map .string)) =
          .ok (Command.ofTest (Command.toTest command)) := Command.decodeTest_list _
      have interval := option_mapM_map_self Duration.parse_format interval
      have timeout := option_mapM_map_self Duration.parse_format timeout
      have threshold := option_mapM_map_self Scalar.toUInt32_int threshold
      simp [HealthCheck.execCommand?, HealthSection.toCheck?, test, Command.ofTest_toTest, interval,
        timeout, threshold, bind, Except.bind, pure, Except.pure, Functor.map, Except.map]

theorem mapM_decodePort {c : Container} (expressible : Expressible c) :
    ((c.ports.filterMap PortMapping.encode?).map Scalar.text).mapM decodePort = .ok
      ((c.ports.filter fun p => p.hostPort ≠ 0 ∨ p.containerPort ≠ 0).map PortMapping.kept) := by
  have container : ∀ p ∈ c.ports, p.containerPort = 0 → p.hostPort = 0 := by
    intro p hp unset
    rcases expressible.ports p hp with set | ⟨host, _⟩
    · exact absurd unset (UInt16.pos_iff_ne_zero.1 set)
    · exact host
  rw [List.mapM_map]
  exact PortMapping.mapM_decode_encode? container expressible.addresses

theorem mapM_decodeVolume {c : Container} (expressible : Expressible c) :
    (c.volumes.map fun v => Scalar.text v.encode).mapM decodeVolume = .ok c.volumes := by
  have text (s : String) : decodeVolume (.text s) = Volume.decode s := rfl
  have volume : ∀ v ∈ c.volumes, decodeVolume (.text v.encode) = .ok (id v) := by
    intro v hv
    rw [text, Volume.decode_encode_of_host (expressible.paths v hv) (expressible.modes v hv)]
    rfl
  have read := mapM_map volume
  rwa [List.map_id] at read

def keptParts (c : Container) : Service.Parts where
  environment := c.environment
  labels := c.labels
  ports := (c.ports.filter fun p => p.hostPort ≠ 0 ∨ p.containerPort ≠ 0).map PortMapping.kept
  volumes := c.volumes
  expose := c.expose
  memory := positive c.memory
  cpuShares := positive c.cpuShares
  logging := c.logging
  check := (c.healthChecks.find? (!·.isHttp)).map some
  command := c.command.filter (· ≠ "")
  entrypoint := c.entrypoint.filter (· ≠ "")
  envFiles := c.envFiles
  dns := c.dns
  dnsSearch := c.dnsSearch
  networks := c.networks
  build := c.build

theorem decodes_ofContainer (g : Group) {c : Container} (expressible : Expressible c) :
    (Service.ofContainer g c).Decodes (keptParts c) where
  environment := decodePairs_textTable c.environment
  labels := decodePairs_textTable c.labels
  ports := mapM_decodePort expressible
  volumes := mapM_decodeVolume expressible
  expose := by
    have port (p : UInt16) : decodeExposed (.int p.toUInt64) = .ok p := Scalar.toUInt16_int p
    exact mapM_map_self port c.expose
  memory := by
    have bytes (n : UInt64) : decodeMemoryLimit (.int n) = .ok n := rfl
    exact option_mapM_map_self bytes (positive c.memory)
  cpuShares := by
    have number (n : UInt64) : (Scalar.int n).toUInt64 = .ok n := rfl
    exact option_mapM_map_self number (positive c.cpuShares)
  logging := option_mapM_map_self toLogging_ofLogging c.logging
  check := toCheck?_ofChecks? c.healthChecks
  command := decodeCommand_string c.command
  entrypoint := decodeCommand_string c.entrypoint
  envFiles := decodeStrings_textList c.envFiles
  dns := decodeStrings_textList c.dns
  dnsSearch := decodeStrings_textList c.dnsSearch
  networks := decodeNetworks_textList c.networks
  build := by
    have read (b : Build) : Build.decode .yaml b.encode.toValue = .ok b :=
      Build.decode_toValue_encode b
    exact option_mapM_map_self read c.build

theorem toContainer_ofContainer (g : Group) {c : Container} (expressible : Expressible c) :
    (Service.ofContainer g c).toContainer c.name = .ok (keptContainer g c) := by
  have check : ((c.healthChecks.find? (!·.isHttp)).map some).join =
      c.healthChecks.find? (!·.isHttp) := by
    cases c.healthChecks.find? (!·.isHttp) <;> rfl
  rw [Service.toContainer_eq_ok_iff]
  refine ⟨keptParts c, decodes_ofContainer g expressible, ?_⟩
  simp only [Service.assemble, keptParts, check]
  rfl

theorem toGroup_ofGroup (version : String) {g : Group}
    (ascending : g.containers.Pairwise fun a b => a.name < b.name)
    (expressible : ∀ c ∈ g.containers, Expressible c) :
    (File.ofGroup version g).toGroup = .ok (keptGroup g) := by
  have services : (File.ofGroup version g).services.entries =
      g.containers.map fun c => (c.name, Service.ofContainer g c) :=
    Dict.entries_ofList (List.pairwise_map.2 ascending)
  have read : (g.containers.map fun c => (c.name, Service.ofContainer g c)).mapM
      (fun e => e.2.toContainer e.1) = .ok (g.containers.map (keptContainer g)) :=
    mapM_map fun c hc => toContainer_ofContainer g (expressible c hc)
  have kept : (keptGroup g).containers.Pairwise fun a b => a.name < b.name :=
    List.pairwise_map.2 ascending
  have finished := Group.finish_of_nodup formatName (nodup_names_of_ascending kept)
  rw [sortContainers_of_ascending kept] at finished
  rw [File.toGroup_eq_ok_iff, services]
  exact ⟨_, read, finished⟩

theorem Expressible.canonical {c : Container} (h : Expressible c) : Expressible c.canonical where
  ports p hp := h.ports p (mem_sortWith.1 hp)
  addresses p hp := h.addresses p (mem_sortWith.1 hp)
  paths v hv := h.paths v (mem_sortWith.1 hv)
  modes v hv := h.modes v (mem_sortWith.1 hv)

/-- Writing and reading once more leaves exactly what a file keeps of the group, once its containers
and their lists are in order. -/
theorem ingest_emit_file (version : String) (g : Group)
    (names : (g.containers.map (·.name)).Nodup) (expressible : ∀ c ∈ g.containers, Expressible c) :
    ∃ h, g.Arranged h ∧ (File.ofGroup version g.canonical).toGroup = .ok (keptGroup h) ∧
      (File.parse? (Yaml.print (File.ofGroup version g.canonical).toValue) =
          some (File.ofGroup version g.canonical) →
        ingest (emit version g) = .ok (keptGroup h)) := by
  have canonical : ∀ c ∈ g.canonical.containers, Expressible c := by
    intro c hc
    obtain ⟨d, hd, rfl⟩ := List.mem_map.1 hc
    exact (expressible d (mem_sortContainers.1 hd)).canonical
  have read := toGroup_ofGroup version (g.ascending_canonical names) canonical
  refine ⟨g.canonical, Group.arranged_iff.2 rfl, read, ?_⟩
  intro parsed
  unfold ingest emit
  rw [parsed]
  exact read

/-- A container that publishes ports, whose lists are out of order. -/
def storefront : Container where
  name := "web"
  essential := true
  command := some ""
  entrypoint := some "run  all"
  memory := some 0
  environment := Dict.ofList [("A", "1")]
  expose := [90, 9]
  ports := [
    { containerPort := 80, hostPort := 8080, hostIp := some "10.0.0.1", name := some "http" },
    { containerPort := 53, protocol := .udp, hostIp := some "10.0.0.1" },
    { containerPort := 0 }]
  volumes := [
    { host := some "/srv", container := "/var", readOnly := true }, { container := "/tmp" }]
  volumesFrom := ["db:ro", "cache"]
  networkMode := some "bridge"
  build := some { dockerfile := some "" }
  healthChecks := [
    { probe := .http { port := 80 } },
    { probe := .exec "true", interval := some 90, failureThreshold := some 3 }]

def ledger : Container where
  name := "db"
  logging := some { driver := "" }

def published : Group where
  name := some "shop"
  labels := Dict.ofList [("tier", "front")]
  hostNetwork := true
  containers := [storefront, ledger]

theorem expressible_storefront : Expressible storefront := by
  refine ⟨by decide, by decide, ?_, by decide⟩
  intro v hv
  simp only [storefront, List.mem_cons, List.not_mem_nil, or_false] at hv
  rcases hv with rfl | rfl <;> exact ⟨by decide, by decide, by decide, by decide⟩

theorem canonical_storefront : storefront.canonical = { storefront with
    ports := storefront.ports.reverse, volumes := storefront.volumes.reverse
    expose := storefront.expose.reverse, volumesFrom := storefront.volumesFrom.reverse } :=
  Container.canonical_eq (sortWith_eq_reverse (by decide))
    (sortWith_eq_reverse (by decide))
    (sortWith_eq_reverse (by decide))
    (sortWith_eq_reverse (by decide))

theorem canonical_published :
    published.canonical = { published with containers := [ledger, storefront.canonical] } := by
  have order : sortContainers published.containers = [ledger, storefront] :=
    (sortContainers_congr (List.Perm.swap ledger storefront []) (by decide)).trans
      (sortContainers_of_ascending (by decide))
  have sorted : ledger.canonical = ledger :=
    Container.canonical_eq (sortWith_of_pairwise .nil) (sortWith_of_pairwise .nil)
      (sortWith_of_pairwise .nil) (sortWith_of_pairwise .nil)
  exact Group.canonical_eq order (congrArg (· :: _) sorted)

open Yaml.Node in
def publishedDocument : Yaml.Document where
  root := some (.mapping none [
    (word "version", quoted "2"),
    (word "services", .mapping none [
      (word "db", .mapping none [
        (word "logging", .mapping none []), (word "network_mode", word "host")]),
      (word "web", .mapping none [
        (word "build", .mapping none [(word "dockerfile", quoted "")]),
        (word "command", quoted ""),
        (word "entrypoint", word "run  all"),
        (word "environment", .mapping none [(word "A", quoted "1")]),
        (word "expose", .sequence none [word "9", word "90"]),
        (word "healthcheck", .mapping none [
          (word "test", .sequence none [word "CMD-SHELL", quoted "true"]),
          (word "interval", word "90s"), (word "retries", word "3")]),
        (word "network_mode", word "bridge"),
        (word "ports", .sequence none [word "53/udp", word "10.0.0.1:8080:80"]),
        (word "volumes", .sequence none [word "/tmp", word "/srv:/var:ro"]),
        (word "volumes_from", .sequence none [word "cache", word "db:ro"])])])])
  anchors := {}
  size := 66

theorem parse?_published :
    File.parse? (Yaml.print (File.ofGroup "2" published.canonical).toValue) =
      some (File.ofGroup "2" published.canonical) := by
  have parsed : Yaml.Document.parse?
      (Yaml.print (File.ofGroup "2" published.canonical).toValue) = some publishedDocument := by
    refine Yaml.Document.parse?_of_events rfl rfl ?_
    rw [canonical_published, canonical_storefront]
    unfold Yaml.print
    rw [Yaml.Token.scan?_ofList]
    decide +kernel
  have read : Yaml.Decode.run publishedDocument {} File.ofNode =
      some (File.ofGroup "2" published.canonical) := by
    rw [canonical_published, canonical_storefront]
    -- the depth is no argument that `valueWithin` is defined by cases on, so it is opened here
    unfold File.ofNode File.ofNodeWith Service.ofNodeWith HealthSection.ofNodeWith
    delta Yaml.Decode.value Yaml.Decode.valueWithin
    rfl
  exact (File.parse?_eq parsed).trans read

def keptPublished : Group where
  containers := [
    { name := "db", logging := some { driver := "" }, networkMode := some "host" },
    { name := "web"
      entrypoint := some "run  all"
      environment := Dict.ofList [("A", "1")]
      expose := [9, 90]
      ports := [
        { containerPort := 53, protocol := .udp },
        { containerPort := 80, hostPort := 8080, hostIp := some "10.0.0.1" }]
      volumes := [
        { container := "/tmp" }, { host := some "/srv", container := "/var", readOnly := true }]
      volumesFrom := ["cache", "db:ro"]
      networkMode := some "bridge"
      build := some { dockerfile := some "" }
      healthChecks := [
        { probe := .exec "true", interval := some 90, failureThreshold := some 3 }] }]

theorem ingest_emit_file_published :
    (published.containers.map (·.name)).Nodup ∧ (∀ c ∈ published.containers, Expressible c) ∧
    (File.ofGroup "2" published.canonical).toGroup = .ok keptPublished ∧
    ingest (emit "2" published) = .ok keptPublished := by
  have names : (published.containers.map (·.name)).Nodup := by decide
  have expressible : ∀ c ∈ published.containers, Expressible c := by
    rw [published, List.forall_mem_cons, List.forall_mem_singleton]
    exact ⟨expressible_storefront, by decide, by decide, by simp [ledger], by decide⟩
  obtain ⟨h, arranged, read, text⟩ := ingest_emit_file "2" published names expressible
  have kept : keptGroup h = keptPublished := by
    rw [Group.arranged_iff.1 arranged, canonical_published, canonical_storefront]
    rfl
  rw [kept] at read text
  exact ⟨names, expressible, read, text parse?_published⟩

end Workload.Compose
