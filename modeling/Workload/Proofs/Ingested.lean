import Workload.Format.Registry
import Workload.Proofs.Document

/-! Groups that come from a document, whatever its format is. -/
namespace Workload

/-- One of the ingesters reads some document as the group. -/
def Ingested (g : Group) : Prop :=
  ∃ name i text, Registry.standard.ingester name = .ok i ∧ i.ingest text = .ok g

theorem mem_ingesters {name : String} {i : Ingester} (h : Registry.standard.ingester name = .ok i) :
    i ∈ [Compose.ingester, Ecs.ingester, Kube.ingester] := by
  have found : Registry.standard.ingesters.find? name = some i := by
    unfold Registry.ingester at h
    split at h
    · rename_i found
      exact found.trans (congrArg some (Except.ok.inj h))
    · cases h
  simp only [Registry.standard, Registry.addEmitter, Registry.addIngester, Dict.find?_insert] at found
  simp only [List.mem_cons, List.not_mem_nil, or_false]
  split at found
  · exact .inr (.inr (Option.some.inj found).symm)
  · split at found
    · exact .inr (.inl (Option.some.inj found).symm)
    · split at found
      · exact .inl (Option.some.inj found).symm
      · cases found

theorem ingester_ecs : Registry.standard.ingester "ecs" = .ok Ecs.ingester := by
  unfold Registry.ingester
  simp [Registry.standard, Registry.addEmitter, Registry.addIngester, Dict.find?_insert,
    Ecs.ingester, Kube.ingester, Ecs.formatName, Kube.formatName]

theorem ingested_of_task {text : String} {t : Ecs.TaskDefinition} {g : Group}
    (parsed : (Json.parse? text).bind Ecs.TaskDefinition.ofJson? = some t)
    (read : t.toGroup = .ok g) : Ingested g := by
  have ingest : Ecs.ingester.ingest text = .ok g := by
    unfold Ecs.ingester Ecs.ingest
    simpa only [parsed] using read
  exact ⟨"ecs", _, text, ingester_ecs, ingest⟩

theorem ingester_compose : Registry.standard.ingester "compose" = .ok Compose.ingester := by
  unfold Registry.ingester
  simp [Registry.standard, Registry.addEmitter, Registry.addIngester, Dict.find?_insert,
    Compose.ingester, Ecs.ingester, Kube.ingester, Compose.formatName, Ecs.formatName,
    Kube.formatName]

theorem ingested_of_file {text : String} {f : Compose.File} {g : Group}
    (parsed : Compose.File.parse? text = some f) (read : f.toGroup = .ok g) : Ingested g := by
  have ingest : Compose.ingester.ingest text = .ok g := by
    unfold Compose.ingester Compose.ingest
    simpa only [parsed] using read
  exact ⟨"compose", _, text, ingester_compose, ingest⟩

theorem Ingested.exists_document {g : Group} (h : Ingested g) : ∃ d : Document, d.toGroup = .ok g := by
  obtain ⟨name, i, text, found, read⟩ := h
  have mem := mem_ingesters found
  simp only [List.mem_cons, List.not_mem_nil, or_false] at mem
  rcases mem with rfl | rfl | rfl
  · have read : Compose.ingest text = .ok g := read
    unfold Compose.ingest at read
    split at read
    · exact ⟨.compose _, read⟩
    · cases read
  · have read : Ecs.ingest text = .ok g := read
    unfold Ecs.ingest at read
    split at read
    · exact ⟨.ecs _, read⟩
    · cases read
  · have read : Kube.ingest text = .ok g := read
    unfold Kube.ingest at read
    split at read
    · exact ⟨.k8s _, read⟩
    · cases read

theorem Document.ascending_of_toGroup {d : Document} {g : Group} (read : d.toGroup = .ok g) :
    g.containers.Pairwise fun a b => a.name < b.name := by
  obtain ⟨format, unsorted, finished⟩ : ∃ format unsorted, Group.finish format unsorted = .ok g := by
    cases d with
    | compose file =>
      obtain ⟨_, _, finished⟩ := Compose.File.toGroup_eq_ok_iff.1 read
      exact ⟨_, _, finished⟩
    | ecs task =>
      obtain ⟨_, _, finished⟩ := Ecs.TaskDefinition.toGroup_eq_ok_iff.1 read
      exact ⟨_, _, finished⟩
    | k8s pod =>
      obtain ⟨_, _, _, _, _, finished⟩ := Kube.Pod.toGroup_eq_ok_iff.1 read
      exact ⟨_, _, finished⟩
  obtain ⟨names, rfl⟩ := Group.finish_eq_ok_iff.1 finished
  exact ascending_sortContainers names

end Workload
