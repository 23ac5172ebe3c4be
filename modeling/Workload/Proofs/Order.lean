import Workload.Model.Finish
import Mathlib.Data.List.Nodup
import Mathlib.Data.List.Pairwise

/-! Sorting forgets the order it starts from: whatever the comparison tells apart ends up in one
place. Canonical groups and the last step of reading rest on this. -/
namespace Workload

section Sorting
variable {α : Type u} {order : α → α → Ordering}

theorem sortWith_perm (order : α → α → Ordering) (xs : List α) :
    (sortWith order xs).Perm xs :=
  List.mergeSort_perm xs _

@[simp] theorem mem_sortWith {x : α} {xs : List α} : x ∈ sortWith order xs ↔ x ∈ xs :=
  List.mem_mergeSort

theorem sortWith_of_pairwise {xs : List α} (h : xs.Pairwise fun a b => (order a b).isLE) :
    sortWith order xs = xs :=
  List.mergeSort_of_pairwise h

variable [Std.TransCmp order]

theorem pairwise_sortWith (xs : List α) :
    (sortWith order xs).Pairwise fun a b => (order a b).isLE := by
  apply List.pairwise_mergeSort
  · intro a b c hab hbc
    exact Std.TransCmp.isLE_trans hab hbc
  · intro a b
    rw [Bool.or_eq_true]
    by_cases h : (order a b).isLE
    · exact .inl h
    · right
      rw [Std.OrientedCmp.lt_of_not_isLE h]
      rfl

/-- Elements that compare equal must be equal, or a tie could keep the order of the input. -/
theorem sortWith_congr {xs ys : List α} (h : xs.Perm ys)
    (ties : ∀ a ∈ xs, ∀ b ∈ xs, order a b = .eq → a = b) :
    sortWith order xs = sortWith order ys := by
  have perm := ((sortWith_perm order xs).trans h).trans (sortWith_perm order ys).symm
  -- two sorted lists of the same elements can only differ where two elements tie
  refine perm.eq_of_pairwise ?_ (pairwise_sortWith xs) (pairwise_sortWith ys)
  intro a b ha hb hab hba
  refine ties a (mem_sortWith.1 ha) b (h.mem_iff.2 (mem_sortWith.1 hb)) ?_
  exact Std.OrientedCmp.isLE_antisymm hab hba

theorem sortWith_eq_of_perm [Std.LawfulEqCmp order] {xs ys : List α} (h : xs.Perm ys) :
    sortWith order xs = sortWith order ys :=
  sortWith_congr h fun _ _ _ _ => Std.LawfulEqCmp.eq_of_compare

@[simp] theorem sortWith_sortWith (xs : List α) :
    sortWith order (sortWith order xs) = sortWith order xs :=
  sortWith_of_pairwise (pairwise_sortWith xs)

theorem sortWith_eq_reverse [Std.LawfulEqCmp order] {xs : List α}
    (h : xs.reverse.Pairwise fun a b => (order a b).isLE) : sortWith order xs = xs.reverse :=
  (sortWith_eq_of_perm xs.reverse_perm.symm).trans (sortWith_of_pairwise h)

theorem sortWith_eq_self_iff {xs : List α} :
    sortWith order xs = xs ↔ xs.Pairwise fun a b => (order a b).isLE := by
  constructor
  · intro same
    rw [← same]
    exact pairwise_sortWith xs
  · exact sortWith_of_pairwise

theorem sortWith_map_sortWith_iff [Std.LawfulEqCmp order] {β : Type v} {rank : β → β → Ordering}
    [Std.TransCmp rank] {f : α → β} {xs : List α} :
    sortWith rank ((sortWith order xs).map f) = (sortWith order xs).map f ↔
      ∀ a ∈ xs, ∀ b ∈ xs, (order a b).isLE → (rank (f a) (f b)).isLE := by
  rw [sortWith_eq_self_iff, List.pairwise_map]
  constructor
  · intro sorted a ha b hb le
    -- if `b` stands first, the two of them tie and are the same
    let ordered (a b : α) : Prop := (order a b).isLE → (rank (f a) (f b)).isLE
    have both : (sortWith order xs).Pairwise fun a b => ordered a b ∧ ordered b a := by
      refine (sorted.and (pairwise_sortWith xs)).imp ?_
      rintro a b ⟨images, le⟩
      refine ⟨fun _ => images, fun ge => ?_⟩
      have same : a = b := Std.LawfulEqCmp.eq_of_compare (Std.OrientedCmp.isLE_antisymm le ge)
      exact same ▸ images
    have : Std.Symm fun a b => ordered a b ∧ ordered b a := ⟨fun _ _ => And.symm⟩
    have refl (a : α) : ordered a a ∧ ordered a a := by
      have self : (rank (f a) (f a)).isLE := Std.ReflCmp.isLE_rfl
      exact ⟨fun _ => self, fun _ => self⟩
    exact (both.forall_of_forall (fun a _ => refl a) (mem_sortWith.2 ha) (mem_sortWith.2 hb)).1 le
  · intro keeps
    have members : (sortWith order xs).Pairwise fun a b => (order a b).isLE ∧ a ∈ xs ∧ b ∈ xs := by
      refine List.Pairwise.and_mem.1 (pairwise_sortWith xs) |>.imp ?_
      simp only [mem_sortWith]
      tauto
    exact members.imp fun ⟨le, ha, hb⟩ => keeps _ ha _ hb le

end Sorting

section Comparisons

theorem Protocol.rank_injective {p q : Protocol} (h : p.rank = q.rank) : p = q := by
  cases p <;> cases q <;> first | rfl | cases h

instance : Std.TransCmp PortMapping.order := by
  unfold PortMapping.order
  infer_instance

instance : Std.LawfulEqCmp PortMapping.order where
  eq_of_compare {p q} h := by
    simp only [PortMapping.order, compareLex_eq_eq, compareOn, Std.compare_eq_iff_eq] at h
    obtain ⟨container, host, protocol, ip, name⟩ := h
    have protocol := Protocol.rank_injective protocol
    cases p
    cases q
    simp_all

instance : Std.TransCmp Volume.order := by
  unfold Volume.order
  infer_instance

instance : Std.LawfulEqCmp Volume.order where
  eq_of_compare {v w} h := by
    simp only [Volume.order, compareLex_eq_eq, compareOn, Std.compare_eq_iff_eq] at h
    cases v
    cases w
    simp_all

end Comparisons

section Containers

theorem isLE_compare_string {s t : String} : (compare s t).isLE ↔ s ≤ t :=
  isLE_compareOfLessAndEq String.le_antisymm String.not_le String.le_total

theorem sortContainers_perm (cs : List Container) : (sortContainers cs).Perm cs :=
  sortWith_perm _ cs

@[simp] theorem mem_sortContainers {c : Container} {cs : List Container} :
    c ∈ sortContainers cs ↔ c ∈ cs :=
  mem_sortWith

theorem nodup_names_sortContainers {cs : List Container} (names : (cs.map (·.name)).Nodup) :
    ((sortContainers cs).map (·.name)).Nodup :=
  ((sortContainers_perm cs).map _).nodup_iff.2 names

/-- Containers with distinct names have one order. -/
theorem sortContainers_congr {cs ds : List Container} (h : cs.Perm ds)
    (names : (cs.map (·.name)).Nodup) : sortContainers cs = sortContainers ds := by
  refine sortWith_congr h ?_
  intro a ha b hb hab
  exact List.inj_on_of_nodup_map names ha hb (Std.compare_eq_iff_eq.1 hab)

theorem map_sortContainers {f : Container → Container} (h : ∀ c, (f c).name = c.name)
    (cs : List Container) : (sortContainers cs).map f = sortContainers (cs.map f) := by
  refine List.map_mergeSort ?_
  intro a _ b _
  simp only [compareOn, h]

theorem sortContainers_of_ascending {cs : List Container}
    (h : cs.Pairwise fun a b => a.name < b.name) : sortContainers cs = cs := by
  refine sortWith_of_pairwise (h.imp ?_)
  intro a b hab
  rw [compareOn, isLE_compare_string]
  exact Std.le_of_lt hab

theorem ascending_sortContainers {cs : List Container} (names : (cs.map (·.name)).Nodup) :
    (sortContainers cs).Pairwise fun a b => a.name < b.name := by
  have sorted : (sortContainers cs).Pairwise fun a b => (compareOn Container.name a b).isLE :=
    pairwise_sortWith cs
  have distinct := List.pairwise_map.1 (nodup_names_sortContainers names)
  refine (sorted.and distinct).imp ?_
  rintro a b ⟨hle, hne⟩
  rw [compareOn, isLE_compare_string] at hle
  exact Std.lt_of_le_of_ne hle hne

theorem nodup_names_of_ascending {cs : List Container}
    (h : cs.Pairwise fun a b => a.name < b.name) : (cs.map (·.name)).Nodup := by
  unfold List.Nodup
  rw [List.pairwise_map]
  refine h.imp ?_
  intro a b hlt heq
  exact String.lt_irrefl _ (heq ▸ hlt)

theorem Group.ascending_canonical (g : Group) (names : (g.containers.map (·.name)).Nodup) :
    g.canonical.containers.Pairwise fun a b => a.name < b.name :=
  List.pairwise_map.2 (ascending_sortContainers names)

theorem Container.canonical_eq {c : Container} {ports : List PortMapping} {volumes : List Volume}
    {expose : List UInt16} {volumesFrom : List String}
    (hports : sortWith PortMapping.order c.ports = ports)
    (hvolumes : sortWith Volume.order c.volumes = volumes)
    (hexpose : sortWith compare c.expose = expose)
    (hsources : sortWith compare c.volumesFrom = volumesFrom) :
    c.canonical = { c with ports, volumes, expose, volumesFrom } := by
  unfold canonical
  rw [hports, hvolumes, hexpose, hsources]

theorem Group.canonical_eq {g : Group} {cs ds : List Container}
    (order : sortContainers g.containers = cs) (arranged : cs.map Container.canonical = ds) :
    g.canonical = { g with containers := ds } := by
  unfold canonical
  rw [order, arranged]

theorem Group.containers_canonical {g : Group}
    (h : g.containers.Pairwise fun a b => a.name < b.name) :
    g.canonical.containers = g.containers.map Container.canonical := by
  unfold canonical
  rw [sortContainers_of_ascending h]

theorem Group.exists_mem_canonical_iff {P : Container → Prop} (h : ∀ c, P c.canonical ↔ P c)
    (g : Group) : (∃ c ∈ g.canonical.containers, P c) ↔ ∃ c ∈ g.containers, P c := by
  simp [canonical, h]

theorem repeatedName?_eq_none_iff {seen : List String} {cs : List Container} :
    repeatedName? seen cs = none ↔ (cs.map (·.name)).Nodup ∧ ∀ c ∈ cs, c.name ∉ seen := by
  induction cs generalizing seen with
  | nil => simp [repeatedName?]
  | cons c cs ih =>
    unfold repeatedName?
    by_cases h : c.name ∈ seen
    · simp [h]
    · rw [if_neg (by simpa using h), ih]
      simp only [List.mem_cons, not_or, List.map_cons, List.nodup_cons, List.mem_map, not_exists,
        not_and, forall_eq_or_imp]
      constructor
      · rintro ⟨nodup, fresh⟩
        exact ⟨⟨fun d hd => (fresh d hd).1, nodup⟩, h, fun d hd => (fresh d hd).2⟩
      · rintro ⟨⟨other, nodup⟩, _, fresh⟩
        exact ⟨nodup, fun d hd => ⟨other d hd, fresh d hd⟩⟩

theorem repeatedName?_sortContainers_eq_none_iff {cs : List Container} :
    repeatedName? [] (sortContainers cs) = none ↔ (cs.map (·.name)).Nodup := by
  rw [repeatedName?_eq_none_iff, ((sortContainers_perm cs).map _).nodup_iff]
  simp

theorem Group.finish_eq_ok_iff {format : String} {g h : Group} :
    g.finish format = .ok h ↔
      (g.containers.map (·.name)).Nodup ∧
        h = { g with containers := sortContainers g.containers } := by
  rw [← repeatedName?_sortContainers_eq_none_iff]
  unfold finish validate
  cases repeated : repeatedName? [] (sortContainers g.containers) <;>
    simp [repeated, bind, Except.bind, pure, Except.pure, eq_comm]

theorem Group.exists_finish_eq_error (format : String) {g : Group}
    (names : ¬(g.containers.map (·.name)).Nodup) :
    ∃ name, g.finish format = .error (.duplicateContainer format name) := by
  rw [← repeatedName?_sortContainers_eq_none_iff] at names
  obtain ⟨name, repeated⟩ := Option.ne_none_iff_exists'.1 names
  refine ⟨name, ?_⟩
  unfold finish validate
  simp [repeated, bind, Except.bind]

theorem Group.finish_of_nodup (format : String) {g : Group}
    (names : (g.containers.map (·.name)).Nodup) :
    g.finish format = .ok { g with containers := sortContainers g.containers } :=
  finish_eq_ok_iff.2 ⟨names, rfl⟩

end Containers
end Workload
