import Workload.Proofs.Dict
import Workload.Proofs.Order
import Workload.Proofs.Traverse

/-! Groups that differ in the order of what has no order: the containers, and in each of them the
ports, volumes, exposed ports and containers to mount from. They have one canonical form. -/
namespace Workload

/-- Tables of the same entries in two orders, no key being repeated. -/
def Dict.Shuffled (d e : Dict α) : Prop :=
  ∃ es fs : List (String × α),
    es.Perm fs ∧ (es.map (·.1)).Nodup ∧ d = .ofList es ∧ e = .ofList fs

theorem Dict.Shuffled.eq {d e : Dict α} (h : d.Shuffled e) : d = e := by
  obtain ⟨es, fs, perm, keys, rfl, rfl⟩ := h
  exact ofList_perm perm keys

inductive Container.Shuffled (c : Container) : Container → Prop
  | intro {ports : List PortMapping} {volumes : List Volume} {expose : List UInt16}
      {volumesFrom : List String} (hports : c.ports.Perm ports) (hvolumes : c.volumes.Perm volumes)
      (hexpose : c.expose.Perm expose) (hvolumesFrom : c.volumesFrom.Perm volumesFrom) :
      Shuffled c { c with ports, volumes, expose, volumesFrom }

inductive Group.Shuffled (g : Group) : Group → Prop
  | intro {containers : List Container}
      (matched : Matched Container.Shuffled g.containers containers) :
      Shuffled g { g with containers }

theorem Container.Shuffled.name_eq {c d : Container} (h : c.Shuffled d) : c.name = d.name := by
  cases h
  rfl

/-- No comparison leaves a field out, so no tie keeps the order of the input. -/
theorem Container.Shuffled.canonical_eq {c d : Container} (h : c.Shuffled d) :
    c.canonical = d.canonical := by
  obtain ⟨hports, hvolumes, hexpose, hvolumesFrom⟩ := h
  unfold canonical
  rw [sortWith_eq_of_perm hports, sortWith_eq_of_perm hvolumes, sortWith_eq_of_perm hexpose,
    sortWith_eq_of_perm hvolumesFrom]

theorem Group.Shuffled.canonical_eq {g h : Group} (names : (g.containers.map (·.name)).Nodup)
    (shuffled : g.Shuffled h) : g.canonical = h.canonical := by
  obtain ⟨matched⟩ := shuffled
  have perm := matched.map_eq_perm fun _ _ => Container.Shuffled.canonical_eq
  have keeps (c : Container) : c.canonical.name = c.name := rfl
  unfold canonical
  rw [map_sortContainers keeps, map_sortContainers keeps, sortContainers_congr perm]
  rw [List.map_map]
  exact names

theorem Group.Shuffled.finish {format : String} {g h g' : Group} (shuffled : g.Shuffled h)
    (finished : g.finish format = .ok g') :
    ∃ h', h.finish format = .ok h' ∧ (g'.containers.map (·.name)).Nodup ∧ g'.Shuffled h' := by
  obtain ⟨names, rfl⟩ := finish_eq_ok_iff.1 finished
  obtain ⟨matched⟩ := shuffled
  have same := matched.map_eq_perm fun _ _ => Container.Shuffled.name_eq
  have names' := same.nodup_iff.1 names
  refine ⟨_, finish_eq_ok_iff.2 ⟨names', rfl⟩, nodup_names_sortContainers names, ?_⟩
  exact .intro (matched.of_perms (sortContainers_perm _) (sortContainers_perm _).symm)

end Workload
