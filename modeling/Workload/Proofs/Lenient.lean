import Workload.Proofs.Blame
import Workload.Proofs.Compose.Form
import Workload.Proofs.Ecs.Form
import Workload.Proofs.Kube.Form
import Workload.Proofs.Written

/-! What becomes of documents by their scalar fields. A document that has the form of its format is
refused as a whole only for a node that a scalar field refuses; whatever else stands in a scalar
field, the error names the container and the field. -/
namespace Workload

theorem Accounted.of_perm {format : String} {fields names names' : List String}
    {e : ConversionError} (h : Accounted format fields names e) (perm : names.Perm names') :
    Accounted format fields names' e := by
  cases h with
  | field named known reason => exact .field (perm.mem_iff.1 named) known reason
  | repeated named twice =>
    exact .repeated (perm.mem_iff.1 named) fun nodup => twice (perm.nodup_iff.2 nodup)

/-- Where the condition holds a document is a group or has one of these errors, and where it does
not the document is refused as a whole. -/
def Settles (fits : Prop) (format : String) (errors : ConversionError → Prop)
    (result : Except ConversionError Group) : Prop :=
  (fits → FailsOnly errors result) ∧
    (¬fits → result = .error (.structural format .unparsable))

namespace Compose

theorem settles_ingest {text : String} {d : Yaml.Document}
    (parsed : Yaml.Document.parse? text = some d) :
    Settles (form.Fits Yaml.Decode.accepts d) formatName
      (Accounted formatName Service.fieldNames ((writtenServices d).map (·.1)).dedup)
      (ingest text) := by
  unfold ingest Settles
  rw [← isSome_parse?_iff parsed]
  cases read : File.parse? text with
  | none => exact ⟨nofun, fun _ => rfl⟩
  | some f =>
    have names := keys_of_parse? parsed read
    exact ⟨fun _ => f.failsOnly_toGroup.imp fun _ h => h.of_perm names, nofun⟩

end Compose

namespace Ecs

theorem settles_ingest {text : String} {v : Json} (parsed : Json.parse? text = some v) :
    Settles (Fits Json.readable v) formatName
      (Accounted formatName ContainerDefinition.fieldNames ((writtenDefinitions v).map writtenName))
      (ingest text) := by
  unfold ingest Settles
  rw [← isSome_ofJson?_iff, parsed, Option.bind_some]
  cases read : TaskDefinition.ofJson? v with
  | none => exact ⟨nofun, fun _ => rfl⟩
  | some t =>
    rw [← definitions_of_ofJson? read]
    exact ⟨fun _ => t.failsOnly_toGroup, nofun⟩

end Ecs

namespace Kube

def Accounts (text : String) (d : Yaml.Document) (e : ConversionError) : Prop :=
  ∃ p, Pod.parse? text = some p ∧
    p.containers.map (·.name) = (writtenContainers d).map (writtenName d) ∧ p.Accounts e

theorem settles_ingest {text : String} {d : Yaml.Document}
    (parsed : Yaml.Document.parse? text = some d) :
    Settles (form.Fits Yaml.Decode.accepts d) formatName (Accounts text d) (ingest text) := by
  unfold ingest Settles
  rw [← isSome_parse?_iff parsed]
  cases read : Pod.parse? text with
  | none => exact ⟨nofun, fun _ => rfl⟩
  | some p =>
    have names := containers_of_parse? parsed read
    exact ⟨fun _ => p.failsOnly_toGroup.imp fun _ h => ⟨p, read, names, h⟩, nofun⟩

end Kube

open Yaml Yaml.Decode

/-- A scalar field takes every node but those that are refused. So a document that has its form is
a group, or an error about one of its containers, unless one of its scalar fields holds such a node;
then the document is refused as a whole. In a document without any refused node this never happens,
whatever stands in its scalar fields. -/
theorem lenient_scalars (text : String) :
    (∀ (n : Node) (s : Scope) (used : Nat), 0 < s.depth →
      ((scalar n s used).isSome ↔
        ∃ m used', follow n s used = some (m, used') ∧ m.present ∧ ¬Refused m)) ∧
    (∀ v : Json, (Scalar.ofJson? v).isSome ↔ v ≠ .unreadable) ∧
    (∀ d, Yaml.Document.parse? text = some d →
      Settles (Compose.form.Fits accepts d) Compose.formatName
        (Accounted Compose.formatName Compose.Service.fieldNames
          ((Compose.writtenServices d).map (·.1)).dedup) (Compose.ingest text) ∧
      Settles (Kube.form.Fits accepts d) Kube.formatName (Kube.Accounts text d)
        (Kube.ingest text) ∧
      ((∀ m, d.Occurs m → ¬Refused m) →
        (Compose.form.Fits Node.present d → Compose.form.Fits accepts d) ∧
        (Kube.form.Fits Node.present d → Kube.form.Fits accepts d))) ∧
    (∀ v, Json.parse? text = some v →
      Settles (Ecs.Fits Json.readable v) Ecs.formatName
        (Accounted Ecs.formatName Ecs.ContainerDefinition.fieldNames
          ((Ecs.writtenDefinitions v).map Ecs.writtenName)) (Ecs.ingest text) ∧
      ((∀ w, v.Occurs w → w ≠ .unreadable) →
        Ecs.Fits (fun _ => true) v → Ecs.Fits Json.readable v)) := by
  refine ⟨fun _ _ _ => isSome_scalar_iff, fun _ => Json.isSome_ofJson?_iff, ?_, ?_⟩
  · intro d parsed
    refine ⟨Compose.settles_ingest parsed, Kube.settles_ingest parsed, fun clean => ?_⟩
    exact ⟨Compose.form.fits_of_clean clean, Kube.form.fits_of_clean clean⟩
  · intro v parsed
    exact ⟨Ecs.settles_ingest parsed, Ecs.fits_of_readable⟩

def listedLimitNodes : List Node := [
  .mapping none [(.word "services", .mapping none [(.word "web", .mapping none
    [(.word "mem_limit", .sequence none [.word "a"])])])],
  .mapping none [(.word "web", .mapping none [(.word "mem_limit", .sequence none [.word "a"])])],
  .mapping none [(.word "mem_limit", .sequence none [.word "a"])],
  .sequence none [.word "a"],
  .word "a"]

def listedLimit : Yaml.Document where
  root := listedLimitNodes.head?
  anchors := {}
  size := 12

def wideVersion : Yaml.Document where
  root := some (.mapping none [(.word "version", .word "18446744073709551616")])
  anchors := {}
  size := 4

theorem parse?_listedLimit :
    Yaml.Document.parse? "{services: {web: {mem_limit: [a]}}}" = some listedLimit :=
  Yaml.Document.parse?_of_events rfl rfl (by decide +kernel)

theorem parse?_wideVersion :
    Yaml.Document.parse? "{version: 18446744073709551616}" = some wideVersion :=
  Yaml.Document.parse?_of_events rfl rfl (by decide +kernel)

theorem not_fits_wideVersion : ¬Compose.form.Fits accepts wideVersion := by
  unfold Yaml.Form.Fits
  decide

theorem mem_of_occurs_listedLimit {m : Node} (h : listedLimit.Occurs m) :
    m ∈ listedLimitNodes := by
  induction h with
  | root h => exact List.mem_of_mem_head? h
  | item _ mem ih =>
    simp only [listedLimitNodes, Node.word, List.mem_cons, List.not_mem_nil, or_false] at ih ⊢
    grind
  | value _ mem ih =>
    simp only [listedLimitNodes, Node.word, List.mem_cons, List.not_mem_nil, or_false] at ih ⊢
    grind
  | target _ _ ih => simp [listedLimitNodes, Node.word] at ih

theorem not_refused_of_occurs_listedLimit {m : Node} (h : listedLimit.Occurs m) : ¬Refused m := by
  have accepted : ∀ n ∈ listedLimitNodes, accepts n = true := by decide
  exact (accepts_iff.1 (accepted m (mem_of_occurs_listedLimit h))).2

theorem occurs_limit : listedLimit.Occurs (.sequence none [.word "a"]) := by
  have services : listedLimit.Occurs (.mapping none [_]) := .root rfl
  have web := services.value List.mem_cons_self
  have limit := web.value List.mem_cons_self
  exact limit.value List.mem_cons_self

theorem lenient_scalars_listedLimit :
    (scalar (.sequence none [.word "a"]) { document := listedLimit } 0).isSome ∧
    (Scalar.ofJson? (.array [])).isSome ∧
    FailsOnly (Accounted Compose.formatName Compose.Service.fieldNames ["web"])
      (Compose.ingest "{services: {web: {mem_limit: [a]}}}") ∧
    FailsOnly (Kube.Accounts "{services: {web: {mem_limit: [a]}}}" listedLimit)
      (Kube.ingest "{services: {web: {mem_limit: [a]}}}") ∧
    Compose.ingest "{version: 18446744073709551616}" =
      .error (.structural Compose.formatName .unparsable) ∧
    FailsOnly (Accounted Ecs.formatName Ecs.ContainerDefinition.fieldNames ["web", "api"])
      (Ecs.ingest definitionsText) := by
  obtain ⟨nodes, values, yaml, _⟩ := lenient_scalars "{services: {web: {mem_limit: [a]}}}"
  obtain ⟨_, _, wide, _⟩ := lenient_scalars "{version: 18446744073709551616}"
  obtain ⟨_, _, _, json⟩ := lenient_scalars definitionsText
  obtain ⟨compose, kube, fits⟩ := yaml _ parse?_listedLimit
  obtain ⟨file, pod⟩ := fits fun m => not_refused_of_occurs_listedLimit
  obtain ⟨task, _⟩ := json _ parse?_twoDefinitions
  refine ⟨?_, (values _).2 nofun, compose.1 (file rfl), kube.1 (pod rfl), ?_, task.1 rfl⟩
  · refine (nodes _ _ _ (by decide)).2 ⟨_, 0, rfl, rfl, ?_⟩
    exact not_refused_of_occurs_listedLimit occurs_limit
  · exact (wide _ parse?_wideVersion).1.2 not_fits_wideVersion

theorem wide_integer_refuses_document :
    scalar (.word "18446744073709551616") { document := wideVersion } 0 = none ∧
    ¬ ∀ text d, Yaml.Document.parse? text = some d → Compose.form.Fits Node.present d →
      ∀ e, Compose.ingest text = .error e → ∃ container field reason,
        e = .fieldDecode Compose.formatName container field reason := by
  refine ⟨rfl, fun h => ?_⟩
  have structural := (Compose.settles_ingest parse?_wideVersion).2 not_fits_wideVersion
  obtain ⟨container, field, reason, same⟩ := h _ _ parse?_wideVersion rfl _ structural
  cases same

end Workload
