import Workload.Proofs.Ecs.Ingest
import Workload.Proofs.Shuffle

/-! Task definitions that differ in the order of what has no order are read as such groups. -/
namespace Workload.Ecs

/-- The definition with its variables, labels, ports, mount points and volume sources in another
order. -/
inductive ContainerDefinition.Shuffled (d : ContainerDefinition) : ContainerDefinition → Prop
  | intro {environment : List Variable} {dockerLabels : Dict Scalar} {portMappings : List Port}
      {mountPoints : List MountPoint} {volumesFrom : List VolumeFrom}
      (hvariables : d.environment.Perm environment)
      (names : (d.environment.map (·.name)).Nodup)
      (hlabels : d.dockerLabels.Shuffled dockerLabels)
      (hports : d.portMappings.Perm portMappings)
      (hmounts : d.mountPoints.Perm mountPoints)
      (hsources : d.volumesFrom.Perm volumesFrom) :
      Shuffled d { d with environment, dockerLabels, portMappings, mountPoints, volumesFrom }

/-- The task with its containers matched, and its volumes and tags in another order. -/
inductive TaskDefinition.Shuffled (t : TaskDefinition) : TaskDefinition → Prop
  | intro {containerDefinitions : List ContainerDefinition} {volumes : List TaskVolume}
      {tags : List Tag}
      (matched : Matched ContainerDefinition.Shuffled t.containerDefinitions containerDefinitions)
      (hvolumes : t.volumes.Perm volumes)
      (volumeNames : (t.volumes.map (·.name)).Nodup)
      (htags : t.tags.Perm tags)
      (tagKeys : (t.tags.map (·.key)).Nodup) :
      Shuffled t { t with containerDefinitions, volumes, tags }

theorem name_eq_of_toPair {x : Variable} {e : String × String} (h : x.toPair = .ok e) :
    x.name = e.1 := by
  simp only [Variable.toPair, bind_eq_ok_iff, pure_eq_ok_iff] at h
  obtain ⟨value, _, rfl⟩ := h
  rfl

theorem toContainer_shuffled {table : VolumeTable} {d e : ContainerDefinition} {c : Container}
    (h : d.Shuffled e) (read : d.toContainer table = .ok c) :
    ∃ c', e.toContainer table = .ok c' ∧ c.Shuffled c' := by
  obtain ⟨parts, decodes, rfl⟩ := ContainerDefinition.toContainer_eq_ok_iff.1 read
  obtain ⟨hvariables, names, hlabels, hports, hmounts, hsources⟩ := h
  obtain ⟨environment, henvironment, pairs⟩ := mapM_perm hvariables decodes.environment
  obtain ⟨ports, hread, hports⟩ := mapM_perm hports decodes.ports
  have keys : (parts.environment.map (·.1)).Nodup := by
    rw [← map_eq_of_mapM decodes.environment fun _ _ => name_eq_of_toPair]
    exact names
  have same := Dict.ofList_perm pairs keys
  cases hlabels.eq
  refine ⟨_, ContainerDefinition.toContainer_eq_ok_iff.2
    ⟨{ parts with environment, ports },
      { decodes with environment := henvironment, ports := hread }, rfl⟩, ?_⟩
  unfold ContainerDefinition.assemble
  rw [← same]
  exact .intro hports (hmounts.map _) (.refl _) (hsources.map _)

theorem TaskDefinition.Shuffled.volumeTable_eq {t u : TaskDefinition} (h : t.Shuffled u) :
    t.volumeTable = u.volumeTable := by
  obtain ⟨_, hvolumes, volumeNames, _, _⟩ := h
  rw [TaskDefinition.volumeTable_eq, TaskDefinition.volumeTable_eq]
  refine congrArg VolumeTable.mk (Dict.ofList_perm (hvolumes.map _) ?_)
  rwa [List.map_map]

theorem TaskDefinition.Shuffled.assemble {t u : TaskDefinition} (h : t.Shuffled u)
    {cs ds : List Container} (matched : Matched Container.Shuffled cs ds) :
    (t.assemble cs).Shuffled (u.assemble ds) := by
  obtain ⟨_, _, _, htags, tagKeys⟩ := h
  have labels := Dict.ofList_perm (htags.map fun tag => (tag.key, tag.value))
    (by rwa [List.map_map])
  have modes (c d : Container) (h : c.Shuffled d) :
      Container.Shuffled
        { c with networkMode := sharedMode t.networkMode, pid := sharedMode t.pidMode }
        { d with networkMode := sharedMode t.networkMode, pid := sharedMode t.pidMode } := by
    obtain ⟨hports, hvolumes, hexpose, hsources⟩ := h
    exact .intro hports hvolumes hexpose hsources
  unfold TaskDefinition.assemble
  rw [← labels]
  exact .intro (matched.map modes)

theorem toGroup_shuffled {t u : TaskDefinition} {g : Group} (h : t.Shuffled u)
    (read : t.toGroup = .ok g) :
    ∃ g', u.toGroup = .ok g' ∧ (g.containers.map (·.name)).Nodup ∧ g.Shuffled g' := by
  obtain ⟨cs, hcs, finished⟩ := TaskDefinition.toGroup_eq_ok_iff.1 read
  obtain ⟨ds, hds, matched⟩ : ∃ ds, u.containerDefinitions.mapM (·.toContainer u.volumeTable) =
      .ok ds ∧ Matched Container.Shuffled cs ds := by
    rw [← h.volumeTable_eq]
    have step (d e : ContainerDefinition) (c : Container) (h : d.Shuffled e)
        (read : d.toContainer t.volumeTable = .ok c) :
        ∃ c', e.toContainer t.volumeTable = .ok c' ∧ c.Shuffled c' := toContainer_shuffled h read
    obtain ⟨definitions, _, _, _, _⟩ := h
    exact definitions.mapM step hcs
  obtain ⟨g', hfinish, names, shuffled⟩ := (h.assemble matched).finish finished
  exact ⟨g', TaskDefinition.toGroup_eq_ok_iff.2 ⟨ds, hds, hfinish⟩, names, shuffled⟩

end Workload.Ecs
