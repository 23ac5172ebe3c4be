import Workload.Proofs.Compose.Ingest
import Workload.Proofs.Dict
import Workload.Proofs.Ecs.Ingest
import Workload.Proofs.Kube.Ingest
import Workload.Proofs.Yaml.Decode
import Mathlib.Data.List.Dedup

/-! The containers that a document writes, and those that it is read as. Lists keep every element,
so names that are given twice are found in the end. The services of a compose file stand in a table
before their names are looked at, and of services with one name only the last is left. -/
namespace Workload

theorem Group.names_of_finish {format : String} {g h : Group} (finished : g.finish format = .ok h) :
    (h.containers.map (·.name)).Perm (g.containers.map (·.name)) ∧
      (g.containers.map (·.name)).Nodup := by
  obtain ⟨names, rfl⟩ := finish_eq_ok_iff.1 finished
  exact ⟨(sortContainers_perm g.containers).map _, names⟩

/-- A reading that succeeds has one container for each of these names, none of them repeated. -/
def OneEach (names : List String) (result : Except ConversionError Group) : Prop :=
  ∀ g, result = .ok g → g.containers.length = names.length ∧
    (g.containers.map (·.name)).Perm names ∧ names.Nodup

theorem oneEach_of_perm {names : List String} {result : Except ConversionError Group}
    (h : ∀ g, result = .ok g → (g.containers.map (·.name)).Perm names ∧ names.Nodup) :
    OneEach names result := by
  intro g read
  obtain ⟨perm, nodup⟩ := h g read
  have length := perm.length_eq
  rw [List.length_map] at length
  exact ⟨length, perm, nodup⟩

namespace Ecs

def Yields {α : Type} (r : Option α) (p : α → Prop) : Prop := ∀ a, r = some a → p a

namespace Yields
variable {α β : Type}

@[elab_as_elim] theorem of_eq_some {r : Option α} {motive : α → Prop} {a : α} (read : r = some a)
    (h : Yields r motive) : motive a :=
  h a read

theorem bind {r : Option α} {f : α → Option β} {p : β → Prop}
    (next : ∀ a, r = some a → Yields (f a) p) : Yields (r >>= f) p := by
  intro b read
  obtain ⟨a, ha, hb⟩ := Option.bind_eq_some_iff.1 read
  exact next a ha b hb

theorem some {a : α} {p : α → Prop} (h : p a) : Yields (some a) p := by
  rintro _ ⟨⟩
  exact h

end Yields

def writtenDefinitions (v : Json) : List Json :=
  match (v.record? TaskDefinition.fieldNames).bind (·.lookup "containerDefinitions") with
  | some (.array items) => items
  | _ => []

def writtenName (v : Json) : String :=
  match (v.record? ContainerDefinition.fieldNames).bind (·.lookup "name") with
  | some (.string name) => name
  | _ => ""

theorem names_toGroup {t : TaskDefinition} {g : Group} (read : t.toGroup = .ok g) :
    (g.containers.map (·.name)).Perm (t.containerDefinitions.map (·.name)) ∧
      (t.containerDefinitions.map (·.name)).Nodup := by
  obtain ⟨containers, hcontainers, finished⟩ := TaskDefinition.toGroup_eq_ok_iff.1 read
  rw [← TaskDefinition.names_assemble hcontainers]
  exact Group.names_of_finish finished

theorem name_of_ofJson? {v : Json} {d : ContainerDefinition}
    (read : ContainerDefinition.ofJsonWith? Scalar.ofJson? v = some d) :
    writtenName v = d.name := by
  obtain ⟨fs, record, read⟩ := Option.bind_eq_some_iff.1 read
  have name : fs.withDefault "name" Json.string? "" = some d.name := by
    refine Yields.of_eq_some read ?_
    repeat refine .bind fun _ _ => ?_
    exact .some ‹_›
  unfold Json.Fields.withDefault at name
  unfold writtenName
  rw [record, Option.bind_some]
  cases found : fs.lookup "name" with
  | none =>
    rw [found] at name
    exact Option.some.inj name
  | some w =>
    rw [found] at name
    cases w with
    | string s => exact Option.some.inj name
    | _ => cases name

theorem definitions_of_ofJson? {v : Json} {t : TaskDefinition}
    (read : TaskDefinition.ofJson? v = some t) :
    t.containerDefinitions.map (·.name) = (writtenDefinitions v).map writtenName := by
  obtain ⟨fs, record, read⟩ := Option.bind_eq_some_iff.1 read
  have definitions : fs.listOf "containerDefinitions"
      (ContainerDefinition.ofJsonWith? Scalar.ofJson?) = some t.containerDefinitions := by
    refine Yields.of_eq_some read ?_
    repeat refine .bind fun _ _ => ?_
    exact .some ‹_›
  unfold Json.Fields.listOf Json.Fields.withDefault at definitions
  unfold writtenDefinitions
  rw [record, Option.bind_some]
  cases found : fs.lookup "containerDefinitions" with
  | none =>
    rw [found] at definitions
    rw [← Option.some.inj definitions]
    rfl
  | some w =>
    rw [found] at definitions
    cases w with
    | array items =>
      have read := mapM_eq_some_iff.1 definitions
      exact (map_eq_of_forall₂ (read.imp fun _ _ => name_of_ofJson?)).symm
    | _ => cases definitions

theorem oneEach_ingest {text : String} {v : Json} (parsed : Json.parse? text = some v) :
    OneEach ((writtenDefinitions v).map writtenName) (ingest text) := by
  refine oneEach_of_perm fun g read => ?_
  unfold ingest at read
  rw [parsed, Option.bind_some] at read
  split at read
  · rename_i t ht
    rw [← definitions_of_ofJson? ht]
    exact names_toGroup read
  · cases read

end Ecs

namespace Kube
open Yaml Yaml.Decode

def writtenContainers (d : Yaml.Document) : List Node :=
  (((d.root.bind (d.field? · "spec")).bind (d.field? · "containers")).bind d.items?).getD []

def writtenName (d : Yaml.Document) (n : Node) : String :=
  ((d.field? n "name").bind d.text?).getD ""

theorem names_toGroup {p : Pod} {g : Group} (read : p.toGroup = .ok g) :
    (g.containers.map (·.name)).Perm (p.containers.map (·.name)) ∧
      (p.containers.map (·.name)).Nodup := by
  obtain ⟨_, labels, _, containers, hcontainers, finished⟩ := Pod.toGroup_eq_ok_iff.1 read
  rw [← Pod.names_assemble hcontainers]
  exact Group.names_of_finish finished

theorem name_of_ofNode (s : Scope) (n : Node) :
    Yields s (ContainerSpec.ofNodeWith Decode.scalar n)
      fun c => writtenName s.document n = c.name := by
  refine .record fun fs depth fields => ?_
  have name : Yields { s with depth } (fs.required "name" string)
      fun name => writtenName s.document n = name := by
    refine .required fun m found => ?_
    rintro name ⟨_, _, text⟩
    have text : s.document.text? m = some name := (text?_of_string text :)
    unfold writtenName
    rw [← fields "name" (by decide), found, Option.bind_some, text, Option.getD_some]
  repeat refine .bind fun _ _ => ?_
  exact .pure (name _ ‹_›)

theorem containers_of_spec (s : Scope) (pod : Pod) (n : Node) :
    Yields s (specWith Decode.scalar pod n) fun p => p.containers.map (·.name) =
      (((s.document.field? n "containers").bind s.document.items?).getD []).map
        (writtenName s.document) := by
  refine .record fun fs depth fields => ?_
  have containers : Yields { s with depth }
      (fs.listOf "containers" (ContainerSpec.ofNodeWith Decode.scalar)) fun specs =>
        specs.map (·.name) =
          (((s.document.field? n "containers").bind s.document.items?).getD []).map
            (writtenName s.document) := by
    rw [← fields "containers" (by decide)]
    refine .withDefault (fun missing => by rw [missing]; rfl) fun m found => ?_
    rintro specs ⟨_, _, list⟩
    obtain ⟨items, written, read⟩ := list_eq_some list
    have written : s.document.items? m = some items := written
    rw [found, Option.bind_some, written, Option.getD_some]
    refine (map_eq_of_forall₂ (read.imp ?_)).symm
    rintro item spec ⟨inner, read⟩
    exact name_of_ofNode { s with depth := inner } item spec read
  repeat refine .bind fun _ _ => ?_
  exact .pure (containers _ ‹_›)

theorem containers_of_metadata (s : Scope) (pod : Pod) (n : Node) :
    Yields s (metadataWith Decode.scalar pod n) fun p => p.containers = pod.containers := by
  refine .record fun fs depth _ => ?_
  repeat refine .bind fun _ _ => ?_
  exact .pure rfl

theorem containers_of_ofNode (d : Yaml.Document) (root : Node) :
    Yields { document := d } (Pod.ofNodeWith Decode.scalar root) fun p =>
      p.containers.map (·.name) = ((((d.field? root "spec").bind (d.field? · "containers")).bind
        d.items?).getD []).map (writtenName d) := by
  refine .record fun fs depth fields => ?_
  have metadata (kind : Option String) : Yields { document := d, depth }
      (fs.withDefault "metadata" (metadataWith Decode.scalar { kind }) { kind })
      fun pod => pod.containers = [] :=
    .withDefault (fun _ => rfl) fun n _ => containers_of_metadata _ _ n
  refine .bind fun _ _ => .bind fun kind _ => .bind fun pod described => ?_
  have none : pod.containers = [] := metadata kind pod described
  have field : fs.lookup "spec" = d.field? root "spec" := fields "spec" (by decide)
  rw [← field]
  refine .withDefault (fun missing => ?_) fun n found => ?_
  · rw [missing, none]
    rfl
  · rw [found, Option.bind_some]
    exact containers_of_spec _ pod n

theorem containers_of_parse? {text : String} {d : Yaml.Document} {p : Pod}
    (parsed : Document.parse? text = some d) (read : Pod.parse? text = some p) :
    p.containers.map (·.name) = (writtenContainers d).map (writtenName d) := by
  rw [Pod.parse?_eq parsed] at read
  unfold writtenContainers
  refine Yields.of_run read (fun absent => by rw [absent]; rfl) fun root present => ?_
  rw [present]
  exact containers_of_ofNode d root

theorem oneEach_ingest {text : String} {d : Yaml.Document}
    (parsed : Document.parse? text = some d) :
    OneEach ((writtenContainers d).map (writtenName d)) (ingest text) := by
  refine oneEach_of_perm fun g read => ?_
  unfold ingest at read
  split at read
  · rename_i p hp
    rw [← containers_of_parse? parsed hp]
    exact names_toGroup read
  · cases read

end Kube

namespace Compose
open Yaml Yaml.Decode

/-- The entries of the mapping of services, repeated names included. -/
def writtenServices (d : Yaml.Document) : List (String × Node) :=
  ((d.root.bind (d.field? · "services")).bind d.entries?).getD []

theorem names_toGroup {f : File} {g : Group} (read : f.toGroup = .ok g) :
    (g.containers.map (·.name)).Perm f.services.keys := by
  obtain ⟨containers, hcontainers, finished⟩ := File.toGroup_eq_ok_iff.1 read
  rw [File.keys_eq_names hcontainers]
  exact (Group.names_of_finish finished).1

def Reads (d : Yaml.Document) (n : Node) (s : Service) : Prop :=
  ∃ depth used used', Service.ofNodeWith Decode.scalar n { document := d, depth } used =
    some (s, used')

theorem services_of_ofNode (d : Yaml.Document) (root : Node) :
    Yields { document := d } (File.ofNodeWith Decode.scalar root) fun f =>
      ∃ services, f.services = .ofList services ∧
        List.Forall₂ (fun e x => e.1 = x.1 ∧ Reads d e.2 x.2)
          (((d.field? root "services").bind d.entries?).getD []) services := by
  refine .record fun fs depth fields => ?_
  have entries : Yields { document := d, depth }
      (fs.withDefault "services" (pairs (Service.ofNodeWith Decode.scalar)) []) fun services =>
        List.Forall₂ (fun e x => e.1 = x.1 ∧ Reads d e.2 x.2)
          (((d.field? root "services").bind d.entries?).getD []) services := by
    have field : fs.lookup "services" = d.field? root "services" := fields "services" (by decide)
    rw [← field]
    refine .withDefault (fun missing => by rw [missing]; exact .nil) fun n found => ?_
    rintro services ⟨_, _, read⟩
    obtain ⟨es, written, entries⟩ := pairs_eq_some read
    have written : d.entries? n = some es := written
    rw [found, Option.bind_some, written]
    exact entries
  refine .bind fun _ _ => .bind fun services read => .pure ?_
  exact ⟨services, rfl, entries services read⟩

/-- The services of a file are read entry by entry and then put into a table. -/
theorem services_of_parse? {text : String} {d : Yaml.Document} {f : File}
    (parsed : Document.parse? text = some d) (read : File.parse? text = some f) :
    ∃ services, f.services = .ofList services ∧
      List.Forall₂ (fun e x => e.1 = x.1 ∧ Reads d e.2 x.2) (writtenServices d) services := by
  rw [File.parse?_eq parsed] at read
  unfold writtenServices
  refine Yields.of_run read (fun absent => ?_) fun root present => ?_
  · rw [absent]
    exact ⟨[], rfl, .nil⟩
  · rw [present]
    exact services_of_ofNode d root

theorem lookup_of_forall₂ {α β : Type} {R : α → β → Prop} {es : List (String × α)}
    {xs : List (String × β)} (h : List.Forall₂ (fun e x => e.1 = x.1 ∧ R e.2 x.2) es xs)
    {key : String} {b : β} (found : xs.lookup key = some b) :
    ∃ a, es.lookup key = some a ∧ R a b := by
  induction h with
  | nil => cases found
  | @cons e x es xs head _ ih =>
    rw [Dict.lookup_cons_eq_if] at found ⊢
    rw [head.1]
    split at found
    · rename_i here
      cases found
      exact ⟨e.2, if_pos here, head.2⟩
    · rename_i there
      rw [if_neg there]
      exact ih found

/-- Every container is what the last entry with its name says. -/
def FromLast (d : Yaml.Document) (c : Container) : Prop :=
  ∃ n s, (writtenServices d).reverse.lookup c.name = some n ∧ Reads d n s ∧
    s.toContainer c.name = .ok c

theorem fromLast_of_toGroup {d : Yaml.Document} {f : File} {g : Group}
    {services : List (String × Service)} (table : f.services = .ofList services)
    (reads : List.Forall₂ (fun e x => e.1 = x.1 ∧ Reads d e.2 x.2) (writtenServices d) services)
    (read : f.toGroup = .ok g) : ∀ c ∈ g.containers, FromLast d c := by
  intro c mem
  obtain ⟨containers, hcontainers, finished⟩ := File.toGroup_eq_ok_iff.1 read
  obtain ⟨_, rfl⟩ := Group.finish_eq_ok_iff.1 finished
  have mem : c ∈ containers := (sortContainers_perm containers).mem_iff.1 mem
  obtain ⟨e, he, made⟩ := exists_of_mem_forall₂ (mapM_eq_ok_iff.1 hcontainers) mem
  have name : e.1 = c.name := Service.name_of_toContainer made
  have found : services.reverse.lookup e.1 = some e.2 := by
    rw [← Dict.find?_ofList, ← table, Dict.find?_eq_some_iff]
    exact he
  obtain ⟨n, written, hn⟩ := lookup_of_forall₂ (List.rel_reverse reads) found
  exact ⟨n, e.2, name ▸ written, hn, name ▸ made⟩

theorem keys_of_parse? {text : String} {d : Yaml.Document} {f : File}
    (parsed : Document.parse? text = some d) (read : File.parse? text = some f) :
    f.services.keys.Perm ((writtenServices d).map (·.1)).dedup := by
  obtain ⟨services, table, reads⟩ := services_of_parse? parsed read
  have keys : (writtenServices d).map (·.1) = services.map (·.1) :=
    map_eq_of_forall₂ (reads.imp fun _ _ h => h.1)
  rw [table, keys]
  exact Dict.keys_ofList_perm services

theorem names_of_ingest {text : String} {d : Yaml.Document} {g : Group}
    (parsed : Document.parse? text = some d) (read : ingest text = .ok g) :
    (g.containers.map (·.name)).Perm ((writtenServices d).map (·.1)).dedup ∧
      ∀ c ∈ g.containers, FromLast d c := by
  unfold ingest at read
  split at read
  · rename_i f hf
    obtain ⟨services, table, reads⟩ := services_of_parse? parsed hf
    have names := (names_toGroup read).trans (keys_of_parse? parsed hf)
    exact ⟨names, fromLast_of_toGroup table reads read⟩
  · cases read

end Compose

theorem length_dedup_eq_iff {names : List String} :
    names.dedup.length = names.length ↔ names.Nodup := by
  rw [← List.dedup_eq_self]
  exact ⟨(List.dedup_sublist names).eq_of_length, congrArg List.length⟩

/-- No container is lost in reading a task definition or a pod, and repeated names are an error
there. In a compose file repeated names are none: as many containers are read as there are
different names, and what the earlier entries say is lost. -/
theorem containers_of_ingest (text : String) :
    (∀ v, Json.parse? text = some v →
      OneEach ((Ecs.writtenDefinitions v).map Ecs.writtenName) (Ecs.ingest text)) ∧
    (∀ d, Yaml.Document.parse? text = some d →
      OneEach ((Kube.writtenContainers d).map (Kube.writtenName d)) (Kube.ingest text)) ∧
    (∀ d g, Yaml.Document.parse? text = some d → Compose.ingest text = .ok g →
      (g.containers.map (·.name)).Perm ((Compose.writtenServices d).map (·.1)).dedup ∧
      (g.containers.length = (Compose.writtenServices d).length ↔
        ((Compose.writtenServices d).map (·.1)).Nodup) ∧
      ∀ c ∈ g.containers, Compose.FromLast d c) := by
  refine ⟨fun _ => Ecs.oneEach_ingest, fun _ => Kube.oneEach_ingest, ?_⟩
  intro d g parsed read
  obtain ⟨names, last⟩ := Compose.names_of_ingest parsed read
  have length := names.length_eq
  rw [List.length_map] at length
  refine ⟨names, ?_, last⟩
  rw [length, ← length_dedup_eq_iff, List.length_map]

def definitionsText : String :=
  "\x7b\"containerDefinitions\": [\x7b\"name\": \"web\"\x7d, \x7b\"name\": \"api\"\x7d]\x7d"

def twoDefinitions : Json :=
  .object [("containerDefinitions", .array [
    .object [("name", .string "web")], .object [("name", .string "api")]])]

def twoSpecs : Yaml.Document where
  root := some (.mapping none [(.word "kind", .word "Pod"),
    (.word "spec", .mapping none [(.word "containers", .sequence none [
      .mapping none [(.word "name", .word "web")], .mapping none [(.word "name", .word "api")]])])])
  anchors := {}
  size := 18

def sameServices : Yaml.Document where
  root := some (.mapping none [(.word "services", .mapping none [
    (.word "web", .mapping none [(.word "image", .word "a")]),
    (.word "web", .mapping none [(.word "image", .word "b")])])])
  anchors := {}
  size := 15

theorem parse?_twoDefinitions : Json.parse? definitionsText = some twoDefinitions :=
  Json.parse?_ofList rfl

theorem ingest_twoDefinitions : ∃ g, Ecs.ingest definitionsText = .ok g := by
  unfold Ecs.ingest
  rw [parse?_twoDefinitions]
  exact ⟨_, Ecs.TaskDefinition.toGroup_eq_ok_iff.2 ⟨_, rfl, Group.finish_of_nodup _ (by decide)⟩⟩

theorem parse?_twoSpecs :
    Yaml.Document.parse? "{kind: Pod, spec: {containers: [{name: web}, {name: api}]}}" =
      some twoSpecs :=
  Yaml.Document.parse?_of_events rfl rfl (by decide +kernel)

theorem ingest_twoSpecs :
    ∃ g, Kube.ingest "{kind: Pod, spec: {containers: [{name: web}, {name: api}]}}" = .ok g := by
  unfold Kube.ingest
  rw [Kube.Pod.parse?_eq parse?_twoSpecs]
  exact ⟨_, Kube.Pod.toGroup_eq_ok_iff.2
    ⟨by decide, _, rfl, _, rfl, Group.finish_of_nodup _ (by decide)⟩⟩

theorem parse?_sameServices :
    Yaml.Document.parse? "{services: {web: {image: a}, web: {image: b}}}" = some sameServices :=
  Yaml.Document.parse?_of_events rfl rfl (by decide +kernel)

theorem ingest_sameServices :
    Compose.ingest "{services: {web: {image: a}, web: {image: b}}}" =
      .ok { containers := [{ name := "web", image := some "b" }] } := by
  unfold Compose.ingest
  rw [Compose.File.parse?_eq parse?_sameServices]
  refine Compose.File.toGroup_eq_ok_iff.2 ⟨[{ name := "web", image := some "b" }], rfl, ?_⟩
  exact Group.finish_eq_ok_iff.2 ⟨by decide, by rw [sortContainers_of_ascending (by simp)]⟩

theorem containers_of_ingest_web :
    (∃ g, Ecs.ingest definitionsText = .ok g ∧
      (g.containers.map (·.name)).Perm ["web", "api"]) ∧
    (∃ g, Kube.ingest "{kind: Pod, spec: {containers: [{name: web}, {name: api}]}}" = .ok g ∧
      (g.containers.map (·.name)).Perm ["web", "api"]) ∧
    (∃ g, Compose.ingest "{services: {web: {image: a}, web: {image: b}}}" = .ok g ∧
      (g.containers.map (·.name)).Perm ["web", "web"].dedup ∧
      (g.containers.length = 2 ↔ ["web", "web"].Nodup) ∧
      ∀ c ∈ g.containers, Compose.FromLast sameServices c) := by
  obtain ⟨definitions, hdefinitions⟩ := ingest_twoDefinitions
  obtain ⟨specs, hspecs⟩ := ingest_twoSpecs
  refine ⟨⟨definitions, hdefinitions, ?_⟩, ⟨specs, hspecs, ?_⟩, ?_⟩
  · exact ((containers_of_ingest _).1 _ parse?_twoDefinitions _ hdefinitions).2.1
  · exact ((containers_of_ingest _).2.1 _ parse?_twoSpecs _ hspecs).2.1
  · refine ⟨_, ingest_sameServices, ?_⟩
    exact (containers_of_ingest _).2.2 _ _ parse?_sameServices ingest_sameServices

theorem length_containers_ne_length_services :
    ¬ ∀ text d g, Yaml.Document.parse? text = some d → Compose.ingest text = .ok g →
      g.containers.length = (Compose.writtenServices d).length := by
  intro h
  have same : 1 = 2 := h _ _ _ parse?_sameServices ingest_sameServices
  contradiction

end Workload
