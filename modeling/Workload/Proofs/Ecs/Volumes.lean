import Workload.Proofs.Ecs.RoundTrip
import Workload.Proofs.VolumeTable.Run

/-! The volumes of a task definition and the mount points that refer to them. Mounting registers
volume by volume and container by container, so the table that is written at the end is that of one
run over all volumes of the group. -/
namespace Workload.Ecs

/-- The point mounts the volume: it has its path and mode, and the one entry of the task that it
names holds its host path. -/
structure Mounts (task : TaskDefinition) (v : Volume) (p : MountPoint) : Prop where
  path : p.containerPath = v.container
  mode : p.readOnly = v.readOnly
  source : ∃! e, e ∈ task.volumes ∧ e.name = p.sourceVolume
  host : ∀ e ∈ task.volumes, e.name = p.sourceVolume →
    e.host = v.host.map fun path => { sourcePath := some path }

/-- The volumes of the task are those that its containers mount, each host path under one name. -/
structure Consistent (g : Group) (task : TaskDefinition) : Prop where
  ascending : task.volumes.Pairwise fun a b => a.name < b.name
  mounts : List.Forall₂ (fun c d => d.name = c.name ∧
    List.Forall₂ (Mounts task) c.volumes d.mountPoints) g.containers task.containerDefinitions
  used : ∀ e ∈ task.volumes, ∃ d ∈ task.containerDefinitions, ∃ p ∈ d.mountPoints,
    p.sourceVolume = e.name
  shared : ∀ c ∈ g.containers, ∀ v ∈ c.volumes, ∀ path ∈ v.host,
    ∃! e, e ∈ task.volumes ∧ e.host = some { sourcePath := some path }

theorem mount_cons (t : VolumeTable) (v : Volume) (vs : List Volume) :
    mount t (v :: vs) =
      (⟨(t.register v).1, v.container, v.readOnly⟩ :: (mount (t.register v).2 vs).1,
        (mount (t.register v).2 vs).2) := rfl

theorem define_cons (t : VolumeTable) (c : Container) (cs : List Container) :
    define t (c :: cs) =
      (.ofContainer c (mount t c.volumes).1 :: (define (mount t c.volumes).2 cs).1,
        (define (mount t c.volumes).2 cs).2) := rfl

theorem forall₂_ofContainer (t : VolumeTable) (cs : List Container) :
    List.Forall₂ (fun c d => ∃ points, d = ContainerDefinition.ofContainer c points) cs
      (define t cs).1 := by
  induction cs generalizing t with
  | nil => exact .nil
  | cons c cs ih => exact .cons ⟨_, rfl⟩ (ih (mount t c.volumes).2)

theorem forall₂_definitions (g : Group) :
    List.Forall₂ (fun c d => ∃ points, d = .ofContainer c.canonical points)
      (sortContainers g.containers) (TaskDefinition.ofGroup g.canonical).containerDefinitions := by
  have definitions := forall₂_ofContainer .empty g.canonical.containers
  have containers : g.canonical.containers =
      (sortContainers g.containers).map Container.canonical := rfl
  rwa [containers, List.forall₂_map_left_iff] at definitions

theorem registerAll_eq_mount (t : VolumeTable) (vs : List Volume) :
    t.registerAll vs = ((mount t vs).1.map (·.sourceVolume), (mount t vs).2) := by
  induction vs generalizing t with
  | nil => rfl
  | cons v vs ih => rw [VolumeTable.registerAll_cons, ih, mount_cons, List.map_cons]

theorem registerAll_eq_define (t : VolumeTable) (cs : List Container) :
    t.registerAll (cs.flatMap (·.volumes)) =
      ((define t cs).1.flatMap fun d => d.mountPoints.map (·.sourceVolume), (define t cs).2) := by
  induction cs generalizing t with
  | nil => rfl
  | cons c cs ih =>
    rw [List.flatMap_cons, VolumeTable.registerAll_append, registerAll_eq_mount, ih, define_cons,
      List.flatMap_cons]
    rfl

/-- Mount points name what their volumes stand for, in this and in every larger table. -/
theorem forall₂_mount {t wide : VolumeTable} {vs : List Volume}
    (h : (mount t vs).2.Extends wide) :
    List.Forall₂ (fun v p => p.containerPath = v.container ∧ p.readOnly = v.readOnly ∧
      wide.entries.find? p.sourceVolume = some v.host) vs (mount t vs).1 := by
  induction vs generalizing t with
  | nil => exact .nil
  | cons v vs ih =>
    have held : wide.entries.find? (t.register v).1 = some v.host :=
      ((extends_mount _ vs).trans h) _ _ (t.find?_register_self v)
    exact .cons ⟨rfl, rfl, held⟩ (ih h)

theorem forall₂_define {t wide : VolumeTable} {cs : List Container}
    (h : (define t cs).2.Extends wide) :
    List.Forall₂ (fun c d => d.name = c.name ∧
      List.Forall₂ (fun v p => p.containerPath = v.container ∧ p.readOnly = v.readOnly ∧
        wide.entries.find? p.sourceVolume = some v.host) c.volumes d.mountPoints)
      cs (define t cs).1 := by
  induction cs generalizing t with
  | nil => exact .nil
  | cons c cs ih => exact .cons ⟨rfl, forall₂_mount ((extends_define _ cs).trans h)⟩ (ih h)

def groupTable (g : Group) : VolumeTable := (define .empty g.containers).2

theorem mem_volumes_iff {g : Group} {e : TaskVolume} :
    e ∈ (TaskDefinition.ofGroup g).volumes ↔
      ∃ host, (groupTable g).entries.find? e.name = some host ∧ e = .ofEntry e.name host := by
  have entries : (TaskDefinition.ofGroup g).volumes =
      (groupTable g).entries.entries.map fun x => .ofEntry x.1 x.2 := rfl
  rw [entries, List.mem_map]
  constructor
  · rintro ⟨⟨name, host⟩, hmem, rfl⟩
    exact ⟨host, Dict.find?_eq_some_iff.2 hmem, rfl⟩
  · rintro ⟨host, found, he⟩
    exact ⟨(e.name, host), Dict.find?_eq_some_iff.1 found, he.symm⟩

theorem existsUnique_entry {g : Group} {name : String} {host : Option String}
    (found : (groupTable g).entries.find? name = some host) :
    (∃! e, e ∈ (TaskDefinition.ofGroup g).volumes ∧ e.name = name) ∧
    ∀ e ∈ (TaskDefinition.ofGroup g).volumes, e.name = name → e = .ofEntry name host := by
  have only : ∀ e ∈ (TaskDefinition.ofGroup g).volumes, e.name = name →
      e = .ofEntry name host := by
    intro e he hname
    obtain ⟨host', found', heq⟩ := mem_volumes_iff.1 he
    rw [hname] at found' heq
    rw [found] at found'
    exact Option.some.inj found' ▸ heq
  refine ⟨⟨.ofEntry name host, ⟨mem_volumes_iff.2 ⟨host, found, rfl⟩, rfl⟩, ?_⟩, only⟩
  rintro e ⟨he, hname⟩
  exact only e he hname

theorem ascending_volumes (g : Group) :
    (TaskDefinition.ofGroup g).volumes.Pairwise fun a b => a.name < b.name :=
  List.pairwise_map.2 (groupTable g).entries.ascending

theorem mounts_define (g : Group) :
    List.Forall₂ (fun c d => d.name = c.name ∧
      List.Forall₂ (Mounts (TaskDefinition.ofGroup g)) c.volumes d.mountPoints)
      g.containers (TaskDefinition.ofGroup g).containerDefinitions := by
  have named := forall₂_define (.refl (groupTable g))
  refine named.imp ?_
  rintro c d ⟨name, points⟩
  refine ⟨name, points.imp ?_⟩
  rintro v p ⟨path, mode, found⟩
  obtain ⟨source, only⟩ := existsUnique_entry found
  refine ⟨path, mode, source, ?_⟩
  intro e he hname
  rw [only e he hname]
  rfl

/-- The table starts empty, so each of its names was given to some volume. -/
theorem exists_mountPoint {g : Group} {e : TaskVolume}
    (h : e ∈ (TaskDefinition.ofGroup g).volumes) :
    ∃ d ∈ (TaskDefinition.ofGroup g).containerDefinitions, ∃ p ∈ d.mountPoints,
      p.sourceVolume = e.name := by
  obtain ⟨host, found, _⟩ := mem_volumes_iff.1 h
  have run := registerAll_eq_define .empty g.containers
  have names : e.name ∈ (VolumeTable.empty.registerAll (g.containers.flatMap (·.volumes))).1 := by
    have held : (VolumeTable.empty.registerAll (g.containers.flatMap (·.volumes))).2.entries.find?
        e.name = some host := by
      rw [run]
      exact found
    exact (VolumeTable.mem_names_of_find? held).resolve_right (by rintro ⟨⟩)
  rw [run, List.mem_flatMap] at names
  obtain ⟨d, hd, hp⟩ := names
  obtain ⟨p, hp, hname⟩ := List.mem_map.1 hp
  exact ⟨d, hd, p, hp, hname⟩

theorem existsUnique_host {g : Group} {c : Container} {v : Volume} {path : String}
    (hc : c ∈ g.containers) (hv : v ∈ c.volumes) (hpath : v.host = some path) :
    ∃! e, e ∈ (TaskDefinition.ofGroup g).volumes ∧ e.host = some { sourcePath := some path } := by
  have mem : v ∈ g.containers.flatMap (·.volumes) := List.mem_flatMap.2 ⟨c, hc, hv⟩
  have unique := VolumeTable.existsUnique_name mem (by rw [hpath]; rfl)
  rw [registerAll_eq_define, hpath] at unique
  obtain ⟨name, found, only⟩ := unique
  refine ⟨.ofEntry name (some path), ⟨mem_volumes_iff.2 ⟨some path, found, rfl⟩, rfl⟩, ?_⟩
  rintro e ⟨he, hhost⟩
  obtain ⟨host, found', heq⟩ := mem_volumes_iff.1 he
  -- an entry is written with the host path that the table has for it
  have host_eq : host = some path := by
    rw [heq] at hhost
    cases host with
    | none => cases hhost
    | some other =>
      cases hhost
      rfl
  subst host_eq
  rw [heq, only e.name found']

theorem consistent_task (g : Group) : Consistent g (TaskDefinition.ofGroup g) where
  ascending := ascending_volumes g
  mounts := mounts_define g
  used := fun _ he => exists_mountPoint he
  shared := fun _ hc _ hv _ hpath => existsUnique_host hc hv hpath

/-- A task definition is consistent with its group, and the one that is written mounts the volumes
of each container in canonical order. -/
theorem consistent_ofGroup (g : Group) :
    Consistent g (TaskDefinition.ofGroup g) ∧
    List.Forall₂ (fun c d => d.name = c.name ∧
        ∃ volumes : List Volume, volumes.Perm c.volumes ∧
          volumes.Pairwise (fun v w => (Volume.order v w).isLE) ∧
          List.Forall₂ (Mounts (TaskDefinition.ofGroup g.canonical)) volumes d.mountPoints)
      (sortContainers g.containers) (TaskDefinition.ofGroup g.canonical).containerDefinitions := by
  refine ⟨consistent_task g, ?_⟩
  have mounts := (consistent_task g.canonical).mounts
  have containers : g.canonical.containers =
      (sortContainers g.containers).map Container.canonical := rfl
  rw [containers, List.forall₂_map_left_iff] at mounts
  refine mounts.imp ?_
  rintro c d ⟨name, points⟩
  exact ⟨name, c.canonical.volumes, sortWith_perm _ c.volumes, pairwise_sortWith c.volumes, points⟩

end Workload.Ecs
