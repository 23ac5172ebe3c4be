import Workload.Proofs.Ecs.Volumes

/-! Which generated volume names are fit for use. A name is made from a path by way of its base
name, and a suffix may follow. The base name of a path of slashes and hyphens alone is empty, and
then so is the name, or it starts with the hyphen of its suffix; of any other path it has neither
flaw. -/
namespace Workload

/-- A name that is there, without slashes, and without hyphens at its ends. -/
structure UsableName (name : String) : Prop where
  nonempty : name ≠ ""
  slash : '/' ∉ name.toList
  ends : Text.Trimmed (· == '-') name.toList

namespace VolumeTable

/-- The path that the volume is named after has more to it than slashes and hyphens. -/
def Nameable (v : Volume) : Prop := ∃ c ∈ (v.host.getD v.container).toList, c ≠ '/' ∧ c ≠ '-'

instance : DecidablePred Nameable := fun v =>
  decidable_of_iff ((v.host.getD v.container).toList.any fun c => c != '/' && c != '-') <| by
    simp [Nameable]

theorem slash_not_mem_volumeBaseName (path : String) : '/' ∉ (volumeBaseName path).toList := by
  intro h
  rw [volumeBaseName, String.toList_ofList] at h
  obtain ⟨c, _, hc⟩ := List.mem_map.1 (Text.mem_of_mem_trimWhile h)
  split at hc
  · cases hc
  · rename_i other
    exact other hc

theorem trimmed_volumeBaseName (path : String) :
    Text.Trimmed (· == '-') (volumeBaseName path).toList := by
  rw [volumeBaseName, String.toList_ofList]
  exact Text.trimmed_trimWhile _ _

theorem baseName_ne_empty_iff {v : Volume} : baseName v ≠ "" ↔ Nameable v := by
  unfold baseName Nameable volumeBaseName
  rw [ne_eq, ← String.toList_inj, String.toList_ofList, String.toList_empty,
    Text.trimWhile_eq_nil_iff, List.forall_mem_map]
  push Not
  refine exists_congr fun c => and_congr_right fun _ => ?_
  by_cases slash : c = '/' <;> simp [slash]

theorem toList_candidate_succ (base : String) (n : Nat) :
    (candidate base (n + 1)).toList = base.toList ++ '-' :: Text.digits (n + 2) := by
  simp [candidate, numeral, String.toList_append]

theorem slash_not_mem_candidate (v : Volume) (n : Nat) :
    '/' ∉ (candidate (baseName v) n).toList := by
  have base : '/' ∉ (baseName v).toList := slash_not_mem_volumeBaseName _
  cases n with
  | zero => exact base
  | succ n =>
    have number : '/' ∉ Text.digits (n + 2) := Text.not_mem_digits (by decide) _
    rw [toList_candidate_succ]
    simp [base, number]

theorem getLast?_candidate (v : Volume) (n : Nat) :
    ∀ c ∈ (candidate (baseName v) n).toList.getLast?, (c == '-') = false := by
  cases n with
  | zero => exact (trimmed_volumeBaseName _).last
  | succ n =>
    rw [toList_candidate_succ, List.getLast?_append_of_ne_nil _ (List.cons_ne_nil _ _),
      List.getLast?_cons_of_ne_nil (Text.digits_ne_nil _)]
    intro c hc
    rw [beq_eq_false_iff_ne]
    rintro rfl
    exact Text.not_mem_digits (by decide) _ (List.mem_of_getLast? hc)

/-- The suffix is preceded by what is left of the path, and only if that is nothing by no more than
its own hyphen. -/
theorem usable_candidate_iff {v : Volume} {n : Nat} :
    UsableName (candidate (baseName v) n) ↔ Nameable v := by
  rw [← baseName_ne_empty_iff]
  constructor
  · rintro ⟨nonempty, _, ends⟩ empty
    rw [empty] at nonempty ends
    cases n with
    | zero => exact nonempty rfl
    | succ n =>
      rw [toList_candidate_succ] at ends
      exact absurd (ends.head '-' rfl) (by decide)
  · intro nonempty
    have base : (baseName v).toList ≠ [] := by simpa using nonempty
    have starts : ∀ c ∈ (candidate (baseName v) n).toList.head?, (c == '-') = false := by
      have trimmed : Text.Trimmed (· == '-') (baseName v).toList := trimmed_volumeBaseName _
      cases n with
      | zero => exact trimmed.head
      | succ n =>
        rw [toList_candidate_succ, List.head?_append_of_ne_nil _ base]
        exact trimmed.head
    refine ⟨?_, slash_not_mem_candidate v n, starts, getLast?_candidate v n⟩
    cases n with
    | zero => exact nonempty
    | succ n => simp [candidate]

theorem usable_nameFor_iff (t : VolumeTable) (v : Volume) :
    UsableName (t.nameFor v) ↔ Nameable v := by
  obtain ⟨n, named⟩ := t.exists_nameFor_eq_candidate v
  rw [named, usable_candidate_iff]

end VolumeTable

namespace Ecs
open VolumeTable

/-- The names of the task are fit for use where the paths that they were made from are. -/
structure NamedByPaths (g : Group) (task : TaskDefinition) : Prop where
  mounts : List.Forall₂ (fun c d => d.name = c.name ∧
    List.Forall₂ (fun v p => p.containerPath = v.container ∧
      (UsableName p.sourceVolume ↔ Nameable v)) c.volumes d.mountPoints)
    g.containers task.containerDefinitions
  entries : ∀ e ∈ task.volumes, ∃ c ∈ g.containers, ∃ v ∈ c.volumes,
    e.host = v.host.map (fun path => { sourcePath := some path }) ∧
      (UsableName e.name ↔ Nameable v)

theorem forall₂_usable_mount (t : VolumeTable) (vs : List Volume) :
    List.Forall₂ (fun v p => UsableName p.sourceVolume ↔ Nameable v) vs (mount t vs).1 := by
  induction vs generalizing t with
  | nil => exact .nil
  | cons v vs ih => exact .cons (t.usable_nameFor_iff v) (ih (t.register v).2)

theorem forall₂_usable_define (t : VolumeTable) (cs : List Container) :
    List.Forall₂ (fun c d => List.Forall₂ (fun v p => UsableName p.sourceVolume ↔ Nameable v)
      c.volumes d.mountPoints) cs (define t cs).1 := by
  induction cs generalizing t with
  | nil => exact .nil
  | cons c cs ih => exact .cons (forall₂_usable_mount t c.volumes) (ih (mount t c.volumes).2)

theorem namedByPaths_ofGroup (g : Group) : NamedByPaths g (TaskDefinition.ofGroup g) := by
  have consistent := consistent_task g
  have mounts : List.Forall₂ (fun c d => d.name = c.name ∧
      List.Forall₂ (fun v p => Mounts (TaskDefinition.ofGroup g) v p ∧
        (UsableName p.sourceVolume ↔ Nameable v)) c.volumes d.mountPoints)
      g.containers (TaskDefinition.ofGroup g).containerDefinitions := by
    refine List.Forall₂.mp ?_ consistent.mounts (forall₂_usable_define .empty g.containers)
    rintro c d ⟨name, points⟩ usable
    exact ⟨name, List.Forall₂.mp (fun _ _ => And.intro) points usable⟩
  constructor
  · refine mounts.imp ?_
    rintro c d ⟨name, points⟩
    exact ⟨name, points.imp fun v p ⟨mounted, usable⟩ => ⟨mounted.path, usable⟩⟩
  · intro e he
    -- the entry has the name of some mount point, and that mounts the volume it was made for
    obtain ⟨d, hd, p, hp, same⟩ := consistent.used e he
    obtain ⟨c, hc, _, points⟩ := exists_of_mem_forall₂ mounts hd
    obtain ⟨v, hv, mounted, usable⟩ := exists_of_mem_forall₂ points hp
    exact ⟨c, hc, v, hv, mounted.host e he same.symm, same ▸ usable⟩

theorem NamedByPaths.all_usable_iff {g : Group} {task : TaskDefinition} (h : NamedByPaths g task) :
    ((∀ d ∈ task.containerDefinitions, ∀ p ∈ d.mountPoints, UsableName p.sourceVolume) ∧
      ∀ e ∈ task.volumes, UsableName e.name) ↔
    ∀ c ∈ g.containers, ∀ v ∈ c.volumes, Nameable v := by
  constructor
  · rintro ⟨points, _⟩ c hc v hv
    obtain ⟨d, hd, _, mounts⟩ := exists_of_mem_forall₂ h.mounts.flip hc
    obtain ⟨p, hp, _, usable⟩ := exists_of_mem_forall₂ mounts.flip hv
    exact usable.1 (points d hd p hp)
  · intro nameable
    constructor
    · intro d hd p hp
      obtain ⟨c, hc, _, mounts⟩ := exists_of_mem_forall₂ h.mounts hd
      obtain ⟨v, hv, _, usable⟩ := exists_of_mem_forall₂ mounts hp
      exact usable.2 (nameable c hc v hv)
    · intro e he
      obtain ⟨c, hc, v, hv, _, usable⟩ := h.entries e he
      exact usable.2 (nameable c hc v hv)

theorem forall_nameable_canonical_iff (g : Group) :
    (∀ c ∈ g.canonical.containers, ∀ v ∈ c.volumes, Nameable v) ↔
      ∀ c ∈ g.containers, ∀ v ∈ c.volumes, Nameable v := by
  have same := g.exists_mem_canonical_iff (P := fun c => ∃ v ∈ c.volumes, ¬Nameable v)
    fun c => by simp [Container.canonical]
  simpa using not_congr same

/-- A name that registration returns has no slash and does not end in a hyphen. It is fit for use,
not being empty or starting with a hyphen, exactly if the path of the volume has another character;
this goes for every name in a task definition. -/
theorem usable_name_iff (t : VolumeTable) (v : Volume) (g : Group) :
    let name := (t.register v).1
    let task := TaskDefinition.ofGroup g.canonical
    ('/' ∉ name.toList ∧ name.toList.getLast? ≠ some '-' ∧ (UsableName name ↔ Nameable v)) ∧
    NamedByPaths g (TaskDefinition.ofGroup g) ∧
    (((∀ d ∈ task.containerDefinitions, ∀ p ∈ d.mountPoints, UsableName p.sourceVolume) ∧
        ∀ e ∈ task.volumes, UsableName e.name) ↔
      ∀ c ∈ g.containers, ∀ w ∈ c.volumes, Nameable w) := by
  intro name task
  refine ⟨?_, namedByPaths_ofGroup g, ?_⟩
  · obtain ⟨n, named⟩ := t.exists_nameFor_eq_candidate v
    have same : name = candidate (baseName v) n := named
    rw [same]
    refine ⟨slash_not_mem_candidate v n, ?_, usable_candidate_iff⟩
    intro hyphen
    exact absurd (getLast?_candidate v n '-' hyphen) (by decide)
  · rw [← forall_nameable_canonical_iff]
    exact (namedByPaths_ofGroup g.canonical).all_usable_iff

def rootVolumes : List Volume := [
  { host := some "/", container := "/a", readOnly := true },
  { host := some "//", container := "/b" },
  { host := some "/var/lib/data", container := "/c" }]

def rootMounts : Group where
  containers := [{ name := "exporter", volumes := rootVolumes }]

theorem usable_name_iff_rootMounts :
    (empty.registerAll rootVolumes).1 = ["", "-2", "var-lib-data"] ∧
    UsableName "var-lib-data" ∧ ¬UsableName "-2" ∧
    (∃ e ∈ (TaskDefinition.ofGroup rootMounts).volumes,
      e.host = some { sourcePath := some "//" } ∧ ¬UsableName e.name) ∧
    ¬((∀ d ∈ (TaskDefinition.ofGroup rootMounts.canonical).containerDefinitions,
        ∀ p ∈ d.mountPoints, UsableName p.sourceVolume) ∧
      ∀ e ∈ (TaskDefinition.ofGroup rootMounts.canonical).volumes, UsableName e.name) := by
  have slashes : ¬Nameable { host := some "//", container := "/b" } := by decide
  obtain ⟨⟨_, _, second⟩, task, document⟩ := usable_name_iff
    (empty.registerAll (rootVolumes.take 1)).2 { host := some "//", container := "/b" } rootMounts
  obtain ⟨⟨_, _, third⟩, _⟩ := usable_name_iff (empty.registerAll (rootVolumes.take 2)).2
    { host := some "/var/lib/data", container := "/c" } rootMounts
  refine ⟨by decide, third.2 (by decide), fun usable => slashes (second.1 usable), ?_, ?_⟩
  · have entry : { name := "-2", host := some { sourcePath := some "//" } } ∈
        (TaskDefinition.ofGroup rootMounts).volumes := by decide
    obtain ⟨_, _, v, _, host, usable⟩ := task.entries _ entry
    obtain ⟨path, hpath, same⟩ := Option.map_eq_some_iff.1 host.symm
    cases same
    refine ⟨_, entry, rfl, fun named => slashes ?_⟩
    have nameable := usable.1 named
    rwa [Nameable, hpath] at nameable
  · intro all
    have nameable := document.1 all
    exact slashes (nameable _ List.mem_cons_self _ (by decide))

theorem root_has_no_usable_name :
    ¬ ∀ (vs : List Volume) (v : Volume), v.host.getD v.container ≠ "" →
      UsableName ((empty.registerAll vs).2.register v).1 := by
  intro h
  have usable := h [] { host := some "/", container := "/rootfs" } (by decide)
  exact usable.nonempty (by decide)

end Ecs
end Workload
