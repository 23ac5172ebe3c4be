import Workload.Proofs.Kube.Ingest
import Workload.Proofs.Shuffle

/-! Pod manifests that differ in the order of what has no order are read as such groups. -/
namespace Workload.Kube

/-- The spec with its variables, ports and mounts in another order. A probe finds the same port by
name, as no name is declared twice. -/
inductive ContainerSpec.Shuffled (s : ContainerSpec) : ContainerSpec → Prop
  | intro {env : List EnvVar} {ports : List ContainerPort} {volumeMounts : List VolumeMount}
      (hvariables : s.env.Perm env)
      (names : (s.env.map (·.name)).Nodup)
      (hports : s.ports.Perm ports)
      (portNames : (s.ports.filterMap (·.name)).Nodup)
      (hmounts : s.volumeMounts.Perm volumeMounts) :
      Shuffled s { s with env, ports, volumeMounts }

/-- The pod with its containers matched, and its volumes and labels in another order. -/
inductive Pod.Shuffled (p : Pod) : Pod → Prop
  | intro {containers : List ContainerSpec} {volumes : List PodVolume} {labels : Dict Scalar}
      (matched : Matched ContainerSpec.Shuffled p.containers containers)
      (hvolumes : p.volumes.Perm volumes)
      (volumeNames : (p.volumes.map (·.name)).Nodup)
      (hlabels : p.labels.Shuffled labels) :
      Shuffled p { p with containers, volumes, labels }

theorem name_eq_of_toPair {x : EnvVar} {e : String × String} (h : x.toPair = .ok e) :
    x.name = e.1 := by
  simp only [EnvVar.toPair, bind_eq_ok_iff, pure_eq_ok_iff] at h
  obtain ⟨value, _, rfl⟩ := h
  rfl

theorem find?_name_perm {ps qs : List ContainerPort} (h : ps.Perm qs)
    (names : (ps.filterMap (·.name)).Nodup) (name : String) :
    ps.find? (·.name == some name) = qs.find? (·.name == some name) := by
  -- only a swap can bring another port to the front, and two ports never share the name
  induction h with
  | nil => rfl
  | cons p _ ih =>
    rw [List.find?_cons, List.find?_cons]
    split
    · rfl
    · apply ih
      exact names.sublist ((List.sublist_cons_self _ _).filterMap _)
  | swap p q ps =>
    by_cases hp : p.name = some name
    · have hq : (q.name == some name) = false := by
        rw [beq_eq_false_iff_ne]
        intro hq
        simp [hq, hp] at names
      simp [hp, hq]
    · have hp : (p.name == some name) = false := beq_eq_false_iff_ne.2 hp
      simp [List.find?_cons, hp]
  | trans h _ ih₁ ih₂ =>
    exact (ih₁ names).trans (ih₂ ((h.filterMap _).nodup_iff.1 names))

theorem toCheck?_congr {ps qs : List ContainerPort}
    (same : ∀ name, ps.find? (·.name == some name) = qs.find? (·.name == some name)) :
    LivenessProbe.toCheck? ps = LivenessProbe.toCheck? qs := by
  have port : probePort ps = probePort qs := by
    funext port
    unfold probePort
    simp only [same]
  have request : HttpGet.toProbe ps = HttpGet.toProbe qs := by
    funext request
    unfold HttpGet.toProbe
    rw [port]
  have probe : LivenessProbe.probe? ps = LivenessProbe.probe? qs := by
    funext probe
    unfold LivenessProbe.probe?
    rw [request]
  funext check
  unfold LivenessProbe.toCheck?
  rw [probe]

theorem toContainer_shuffled {table : VolumeTable} {s t : ContainerSpec} {c : Container}
    (h : s.Shuffled t) (read : s.toContainer table = .ok c) :
    ∃ c', t.toContainer table = .ok c' ∧ c.Shuffled c' := by
  obtain ⟨parts, decodes, rfl⟩ := ContainerSpec.toContainer_eq_ok_iff.1 read
  obtain ⟨hvariables, names, hdeclared, portNames, hmounts⟩ := h
  obtain ⟨environment, henvironment, pairs⟩ := mapM_perm hvariables decodes.environment
  obtain ⟨ports, hread, hports⟩ := mapM_perm hdeclared decodes.ports
  have keys : (parts.environment.map (·.1)).Nodup := by
    rw [← map_eq_of_mapM decodes.environment fun _ _ => name_eq_of_toPair]
    exact names
  have same := Dict.ofList_perm pairs keys
  have check := decodes.check
  rw [toCheck?_congr (find?_name_perm hdeclared portNames)] at check
  refine ⟨_, ContainerSpec.toContainer_eq_ok_iff.2
    ⟨{ parts with environment, ports },
      { decodes with environment := henvironment, ports := hread, check }, rfl⟩, ?_⟩
  unfold ContainerSpec.assemble
  rw [← same]
  exact .intro hports (hmounts.map _) (.refl _) (.refl _)

theorem Pod.Shuffled.volumeTable_eq {p q : Pod} (h : p.Shuffled q) :
    p.volumeTable = q.volumeTable := by
  obtain ⟨_, hvolumes, volumeNames, _⟩ := h
  rw [Pod.volumeTable_eq, Pod.volumeTable_eq]
  refine congrArg VolumeTable.mk (Dict.ofList_perm (hvolumes.map _) ?_)
  rwa [List.map_map]

theorem Pod.Shuffled.assemble {p q : Pod} (h : p.Shuffled q) (labels : Dict String)
    {cs ds : List Container} (matched : Matched Container.Shuffled cs ds) :
    (p.assemble labels cs).Shuffled (q.assemble labels ds) := by
  obtain ⟨_, _, _, _⟩ := h
  have hostname (c d : Container) (h : c.Shuffled d) :
      Container.Shuffled { c with hostname := p.hostname } { d with hostname := p.hostname } := by
    obtain ⟨hports, hvolumes, hexpose, hsources⟩ := h
    exact .intro hports hvolumes hexpose hsources
  exact .intro (matched.map hostname)

theorem toGroup_shuffled {p q : Pod} {g : Group} (h : p.Shuffled q) (read : p.toGroup = .ok g) :
    ∃ g', q.toGroup = .ok g' ∧ (g.containers.map (·.name)).Nodup ∧ g.Shuffled g' := by
  obtain ⟨kind, labels, hlabels, cs, hcs, finished⟩ := Pod.toGroup_eq_ok_iff.1 read
  obtain ⟨ds, hds, matched⟩ : ∃ ds, q.containers.mapM (·.toContainer q.volumeTable) = .ok ds ∧
      Matched Container.Shuffled cs ds := by
    have step (s t : ContainerSpec) (c : Container) (h : s.Shuffled t)
        (read : s.toContainer p.volumeTable = .ok c) :
        ∃ c', t.toContainer p.volumeTable = .ok c' ∧ c.Shuffled c' := toContainer_shuffled h read
    rw [← h.volumeTable_eq]
    obtain ⟨containers, _, _, _⟩ := h
    exact containers.mapM step hcs
  obtain ⟨g', hfinish, names, shuffled⟩ := (h.assemble labels matched).finish finished
  refine ⟨g', Pod.toGroup_eq_ok_iff.2 ⟨?_, labels, ?_, ds, hds, hfinish⟩, names, shuffled⟩
  · obtain ⟨_, _, _, _⟩ := h
    exact kind
  · obtain ⟨_, _, _, same⟩ := h
    rw [← hlabels, same.eq]

end Workload.Kube
