import Workload.Proofs.Order
import Workload.Proofs.Text
import Workload.Proofs.Traverse

/-! Which name is reported where names repeat: of a list as it stands, the first that an earlier
container has too; of a document that has been read, the least of all that occur twice. -/
namespace Workload

/-- The first name, in list order, that stands earlier in the list too. -/
def FirstRepeated (names : List String) (name : String) : Prop :=
  ∃ before after, names = before ++ name :: after ∧ before.Nodup ∧ name ∈ before

/-- Of the names that occur more than once, the one with the least octets. -/
structure LeastRepeated (names : List String) (name : String) : Prop where
  repeated : 2 ≤ names.count name
  least : ∀ other, 2 ≤ names.count other →
    ¬other.toUTF8.data.toList < name.toUTF8.data.toList

section Repetitions
variable {names others : List String} {name other : String}

theorem LeastRepeated.of_perm (h : LeastRepeated names name) (perm : names.Perm others) :
    LeastRepeated others name where
  repeated := perm.count_eq name ▸ h.repeated
  least other twice := h.least other (perm.count_eq other ▸ twice)

theorem LeastRepeated.unique (h : LeastRepeated names name) (h' : LeastRepeated names other) :
    name = other := by
  have above : ¬other < name := fun lt => h.least _ h'.repeated (Text.lt_iff_octets_lt.1 lt)
  have below : ¬name < other := fun lt => h'.least _ h.repeated (Text.lt_iff_octets_lt.1 lt)
  exact String.le_antisymm (String.not_lt.1 above) (String.not_lt.1 below)

theorem LeastRepeated.not_nodup (h : LeastRepeated names name) : ¬names.Nodup := by
  intro nodup
  have once := List.nodup_iff_count_le_one.1 nodup name
  have twice := h.repeated
  omega

theorem FirstRepeated.least (h : FirstRepeated names name)
    (ascending : names.Pairwise (· ≤ ·)) : LeastRepeated names name := by
  obtain ⟨before, after, rfl, nodup, earlier⟩ := h
  constructor
  · have once := List.one_le_count_iff.2 earlier
    rw [List.count_append, List.count_cons_self]
    omega
  · intro other twice lt
    rw [← Text.lt_iff_octets_lt] at lt
    have absent : other ∉ name :: after := by
      intro mem
      have ge : name ≤ other := by
        rcases List.mem_cons.1 mem with rfl | mem
        · exact String.le_refl _
        · exact List.rel_of_pairwise_cons (List.pairwise_append.1 ascending).2.1 mem
      exact String.not_lt.2 ge lt
    have once := List.nodup_iff_count_le_one.1 nodup other
    rw [List.count_append, List.count_eq_zero_of_not_mem absent] at twice
    omega

end Repetitions

section Scan
variable {seen names : List String} {n name : String}

/-- As `FirstRepeated`, with `seen` for names that stand before the list. -/
def FirstSeen (seen names : List String) (name : String) : Prop :=
  ∃ before after, names = before ++ name :: after ∧ before.Nodup ∧
    (∀ n ∈ before, n ∉ seen) ∧ (name ∈ seen ∨ name ∈ before)

theorem firstSeen_nil_iff : FirstSeen [] names name ↔ FirstRepeated names name := by
  simp [FirstSeen, FirstRepeated]

theorem not_firstSeen_nil : ¬FirstSeen seen [] name := by
  simp [FirstSeen]

theorem firstSeen_cons_of_mem (old : n ∈ seen) : FirstSeen seen (n :: names) name ↔ n = name := by
  constructor
  · rintro ⟨_ | ⟨m, before⟩, after, split, _, fresh, _⟩
    · exact (List.cons.inj split).1
    · obtain ⟨rfl, _⟩ := List.cons.inj split
      exact absurd old (fresh n List.mem_cons_self)
  · rintro rfl
    exact ⟨[], names, rfl, .nil, List.forall_mem_nil _, .inl old⟩

theorem firstSeen_cons_of_not_mem (new : n ∉ seen) :
    FirstSeen seen (n :: names) name ↔ FirstSeen (n :: seen) names name := by
  constructor
  · rintro ⟨_ | ⟨m, before⟩, after, split, nodup, fresh, earlier⟩
    · obtain ⟨rfl, _⟩ := List.cons.inj split
      exact absurd earlier (by simp [new])
    · obtain ⟨rfl, rest⟩ := List.cons.inj split
      obtain ⟨other, nodup⟩ := List.nodup_cons.1 nodup
      refine ⟨before, after, rest, nodup, ?_, ?_⟩
      · intro m mem
        rw [List.mem_cons, not_or]
        exact ⟨ne_of_mem_of_not_mem mem other, fresh m (List.mem_cons_of_mem _ mem)⟩
      · simpa [or_left_comm, or_assoc] using earlier
  · rintro ⟨before, after, split, nodup, fresh, earlier⟩
    refine ⟨n :: before, after, congrArg (n :: ·) split, ?_, ?_, ?_⟩
    · exact List.nodup_cons.2 ⟨fun mem => fresh n mem List.mem_cons_self, nodup⟩
    · refine List.forall_mem_cons.2 ⟨new, fun m mem other => ?_⟩
      exact fresh m mem (List.mem_cons_of_mem _ other)
    · simpa [or_left_comm, or_assoc] using earlier

theorem repeatedName?_eq_some_iff {cs : List Container} :
    repeatedName? seen cs = some name ↔ FirstSeen seen (cs.map (·.name)) name := by
  induction cs generalizing seen with
  | nil => simp [repeatedName?, not_firstSeen_nil]
  | cons c cs ih =>
    unfold repeatedName?
    rw [List.map_cons]
    by_cases old : c.name ∈ seen
    · rw [if_pos (by simpa using old), firstSeen_cons_of_mem old, Option.some_inj]
    · rw [if_neg (by simpa using old), firstSeen_cons_of_not_mem old, ih]

end Scan

theorem ordered_names_sortContainers (cs : List Container) :
    ((sortContainers cs).map (·.name)).Pairwise (· ≤ ·) := by
  have sorted : (sortContainers cs).Pairwise fun a b => (compareOn Container.name a b).isLE :=
    pairwise_sortWith cs
  exact List.pairwise_map.2 (sorted.imp isLE_compare_string.1)

namespace Group
variable {format : String} {g h : Group} {e : ConversionError}

theorem validate_eq_ok_iff : g.validate format = .ok () ↔ (g.containers.map (·.name)).Nodup := by
  have distinct := @repeatedName?_eq_none_iff [] g.containers
  simp only [List.not_mem_nil, not_false_eq_true, implies_true, and_true] at distinct
  rw [← distinct]
  unfold validate
  cases repeatedName? [] g.containers <;> simp

theorem validate_eq_error_iff :
    g.validate format = .error e ↔
      ∃ name, FirstRepeated (g.containers.map (·.name)) name ∧
        e = .duplicateContainer format name := by
  simp only [← firstSeen_nil_iff, ← repeatedName?_eq_some_iff]
  unfold validate
  cases repeatedName? [] g.containers <;> simp [eq_comm]

theorem least_of_finish_eq_error (failed : g.finish format = .error e) :
    ∃ name, LeastRepeated (g.containers.map (·.name)) name ∧
      e = .duplicateContainer format name := by
  rcases bind_eq_error_iff.1 failed with invalid | ⟨_, _, returned⟩
  · obtain ⟨name, first, rfl⟩ := validate_eq_error_iff.1 invalid
    have least := first.least (ordered_names_sortContainers g.containers)
    exact ⟨name, least.of_perm ((sortContainers_perm g.containers).map _), rfl⟩
  · cases returned

theorem finish_eq_error_iff :
    g.finish format = .error e ↔
      ∃ name, LeastRepeated (g.containers.map (·.name)) name ∧
        e = .duplicateContainer format name := by
  constructor
  · exact least_of_finish_eq_error
  · rintro ⟨name, least, rfl⟩
    -- the names are not distinct, and no name but this one can be blamed for it
    obtain ⟨other, failed⟩ := exists_finish_eq_error format least.not_nodup
    obtain ⟨_, reported, same⟩ := least_of_finish_eq_error failed
    cases same
    rw [failed, reported.unique least]

theorem finish_eq_ok_iff_ascending :
    g.finish format = .ok h ↔
      h = { g with containers := h.containers } ∧ h.containers.Perm g.containers ∧
        h.containers.Pairwise fun a b => a.name.toUTF8.data.toList < b.name.toUTF8.data.toList := by
  simp only [← Text.lt_iff_octets_lt]
  rw [finish_eq_ok_iff]
  constructor
  · rintro ⟨names, rfl⟩
    exact ⟨rfl, sortContainers_perm _, ascending_sortContainers names⟩
  · rintro ⟨others, perm, ascending⟩
    have names := (perm.map (·.name)).nodup_iff.1 (nodup_names_of_ascending ascending)
    refine ⟨names, others.trans ?_⟩
    rw [sortContainers_congr perm.symm names, sortContainers_of_ascending ascending]

theorem exists_finish_eq_ok_iff :
    (∃ h, g.finish format = .ok h) ↔ (g.containers.map (·.name)).Nodup := by
  simp [finish_eq_ok_iff]

/-- What reading ends with does not depend on the order of the containers: distinct names have one
ascending order, and of repeated names the least is reported. A check of the group as it stands
reports the first repetition. -/
theorem finish_and_validate_exact (format : String) (g : Group) :
    ((∃ h, g.finish format = .ok h) ↔ (g.containers.map (·.name)).Nodup) ∧
      (∀ h, g.finish format = .ok h ↔
        h = { g with containers := h.containers } ∧ h.containers.Perm g.containers ∧
          h.containers.Pairwise fun a b =>
            a.name.toUTF8.data.toList < b.name.toUTF8.data.toList) ∧
      (∀ e, g.finish format = .error e ↔
        ∃ name, LeastRepeated (g.containers.map (·.name)) name ∧
          e = .duplicateContainer format name) ∧
      (g.validate format = .ok () ↔ (g.containers.map (·.name)).Nodup) ∧
      ∀ e, g.validate format = .error e ↔
        ∃ name, FirstRepeated (g.containers.map (·.name)) name ∧
          e = .duplicateContainer format name :=
  ⟨exists_finish_eq_ok_iff, fun _ => finish_eq_ok_iff_ascending, fun _ => finish_eq_error_iff,
    validate_eq_ok_iff, fun _ => validate_eq_error_iff⟩

end Group
end Workload
