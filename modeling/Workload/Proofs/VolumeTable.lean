import Workload.Codec.VolumeTable
import Workload.Proofs.Dict
import Workload.Proofs.Text
import Mathlib.Data.List.Perm.Subperm

/-! Tables of named volumes under registration. Candidates for a name never repeat, so among the
first `size + 1` of them one is acceptable; the name that is taken then stands for the host path of
the volume in this and in every later table. -/
namespace Workload.VolumeTable

theorem candidate_injective (base : String) {m n : Nat} (h : candidate base m = candidate base n) :
    m = n := by
  have suffixed (k : Nat) : candidate base (k + 1) ≠ base := by
    intro hk
    have hlen := congrArg String.length hk
    simp only [candidate, String.length_append] at hlen
    have hdash : "-".length = 1 := rfl
    omega
  match m, n with
  | 0, 0 => rfl
  | 0, n + 1 => exact absurd h.symm (suffixed n)
  | m + 1, 0 => exact absurd h (suffixed m)
  | m + 1, n + 1 =>
    have hnumeral : numeral (m + 2) = numeral (n + 2) := by
      simpa [candidate, String.append_assoc] using h
    have := numeral_injective hnumeral
    omega

theorem nodup_candidates (base : String) (n count : Nat) :
    ((List.range' n count).map (candidate base)).Nodup :=
  (List.nodup_range' 1).map fun _ _ => candidate_injective base

theorem accepts_iff {t : VolumeTable} {host : Option String} {name : String} :
    t.accepts host name ↔ ∀ held, t.entries.find? name = some held → held = host := by
  unfold accepts
  cases t.entries.find? name <;> simp

theorem not_accepts_iff {t : VolumeTable} {host : Option String} {name : String} :
    ¬ t.accepts host name ↔ ∃ held, t.entries.find? name = some held ∧ held ≠ host := by
  rw [accepts_iff]
  push Not
  rfl

theorem mem_keys_of_not_accepts {t : VolumeTable} {host : Option String} {name : String}
    (h : ¬ t.accepts host name) : name ∈ t.entries.keys := by
  obtain ⟨held, found, _⟩ := not_accepts_iff.1 h
  exact List.mem_map_of_mem (Dict.find?_eq_some_iff.1 found)

/-- More names than entries cannot all be taken, wherever one begins to count them. -/
theorem exists_accepted (t : VolumeTable) (host : Option String) (base : String) (n : Nat) :
    ∃ i, n ≤ i ∧ i ≤ n + t.size ∧ t.accepts host (candidate base i) := by
  -- otherwise `t.size + 1` candidates, all different, would be keys of the table
  by_contra! hnone
  have taken : (List.range' n (t.size + 1)).map (candidate base) ⊆ t.entries.keys := by
    intro name hname
    obtain ⟨i, hi, rfl⟩ := List.mem_map.1 hname
    rw [List.mem_range'_1] at hi
    exact mem_keys_of_not_accepts (hnone i hi.1 (by omega))
  have hle := (List.subperm_of_subset (nodup_candidates base n (t.size + 1)) taken).length_le
  simp only [List.length_map, List.length_range', Dict.keys, size, Dict.size] at hle
  omega

theorem accepts_probe {t : VolumeTable} {host : Option String} {base : String} (fuel n : Nat)
    (h : ∃ i, n ≤ i ∧ i ≤ n + fuel ∧ t.accepts host (candidate base i)) :
    t.accepts host (t.probe host base n fuel) := by
  induction fuel generalizing n with
  | zero =>
    obtain ⟨i, hni, hin, hi⟩ := h
    have : i = n := by omega
    exact this ▸ hi
  | succ fuel ih =>
    rw [probe]
    split
    · assumption
    · rename_i hn
      obtain ⟨i, hni, hin, hi⟩ := h
      have hne : i ≠ n := fun heq => hn (heq ▸ hi)
      exact ih (n + 1) ⟨i, by omega, by omega, hi⟩

theorem accepts_nameFor (t : VolumeTable) (v : Volume) : t.accepts v.host (t.nameFor v) :=
  accepts_probe t.size 0 (t.exists_accepted v.host _ 0)

/-- Registration binds the name it returns to the host path, and no other name. -/
theorem find?_register (t : VolumeTable) (v : Volume) (name : String) :
    (t.register v).2.entries.find? name =
      if name = (t.register v).1 then some v.host else t.entries.find? name := by
  have accepted := accepts_iff.1 (t.accepts_nameFor v)
  unfold register
  dsimp only
  split
  · rename_i held
    unfold contains Dict.contains at held
    obtain ⟨host, hhost⟩ := Option.isSome_iff_exists.1 held
    split
    · rename_i heq
      rw [heq, hhost, accepted host hhost]
    · rfl
  · exact Dict.find?_insert _ _ _ _

/-- Every entry of one table stands in the other. -/
def Extends (t u : VolumeTable) : Prop :=
  ∀ name host, t.entries.find? name = some host → u.entries.find? name = some host

theorem Extends.refl (t : VolumeTable) : t.Extends t := fun _ _ h => h

theorem Extends.trans {t u w : VolumeTable} (htu : t.Extends u) (huw : u.Extends w) :
    t.Extends w :=
  fun name host h => huw name host (htu name host h)

theorem extends_register (t : VolumeTable) (v : Volume) : t.Extends (t.register v).2 := by
  intro name host h
  rw [find?_register]
  split
  · rename_i heq
    subst heq
    exact congrArg some (accepts_iff.1 (t.accepts_nameFor v) host h).symm
  · exact h

theorem resolve_register {t u : VolumeTable} {v : Volume} (h : (t.register v).2.Extends u) :
    u.resolve (t.register v).1 = v.host := by
  have bound : u.entries.find? (t.register v).1 = some v.host := by
    apply h
    rw [find?_register, if_pos rfl]
  rw [resolve, bound, Option.join_some]

end Workload.VolumeTable
