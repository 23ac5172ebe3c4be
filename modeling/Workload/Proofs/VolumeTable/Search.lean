import Workload.Proofs.VolumeTable.Run

/-! The search for a name as a loop without a bound. The candidates differ from one another and only
as many of them are taken as there are entries, so the loop ends by itself, wherever it begins, and
`register` returns what it finds. -/
namespace Workload.VolumeTable

/-- From the `n`-th candidate on, one name after the other is looked at until one of them is free or
stands for the host path of the volume. Yields the names looked at, then the name that is found and
the table with it. -/
inductive Search (t : VolumeTable) (v : Volume) :
    Nat → List String → String × VolumeTable → Prop
  | free {n : Nat} (entry : t.entries.find? (candidate (baseName v) n) = none) :
      Search t v n [candidate (baseName v) n]
        (candidate (baseName v) n, t.insert (candidate (baseName v) n) v.host)
  | held {n : Nat} (entry : t.entries.find? (candidate (baseName v) n) = some v.host) :
      Search t v n [candidate (baseName v) n] (candidate (baseName v) n, t)
  | taken {n : Nat} {host : Option String} {looked : List String} {result : String × VolumeTable}
      (entry : t.entries.find? (candidate (baseName v) n) = some host) (other : host ≠ v.host)
      (later : Search t v (n + 1) looked result) :
      Search t v n (candidate (baseName v) n :: looked) result

variable {t : VolumeTable} {v : Volume} {n : Nat} {looked looked' : List String}
  {result result' : String × VolumeTable}

/-- What stands under the name looked at decides how the loop goes on. -/
theorem Search.unique (h : t.Search v n looked result) (h' : t.Search v n looked' result') :
    looked' = looked ∧ result' = result := by
  induction h generalizing looked' with
  | free entry =>
    cases h' with
    | free => exact ⟨rfl, rfl⟩
    | held entry' => simp [entry] at entry'
    | taken entry' => simp [entry] at entry'
  | held entry =>
    cases h' with
    | free entry' => simp [entry] at entry'
    | held => exact ⟨rfl, rfl⟩
    | taken entry' other =>
      rw [entry] at entry'
      exact absurd (Option.some.inj entry').symm other
  | taken entry other _ ih =>
    cases h' with
    | free entry' => simp [entry] at entry'
    | held entry' =>
      rw [entry] at entry'
      exact absurd (Option.some.inj entry') other
    | taken _ _ later =>
      obtain ⟨rfl, rfl⟩ := ih later
      exact ⟨rfl, rfl⟩

theorem Search.exists_candidates (h : t.Search v n looked result) :
    ∃ i, looked = (List.range' n (i + 1)).map (candidate (baseName v)) ∧
      result.1 = candidate (baseName v) (n + i) := by
  induction h with
  | free => exact ⟨0, rfl, rfl⟩
  | held => exact ⟨0, rfl, rfl⟩
  | @taken n _ _ _ _ _ _ ih =>
    obtain ⟨i, rfl, name⟩ := ih
    refine ⟨i + 1, rfl, ?_⟩
    rw [name, Nat.add_right_comm, Nat.add_assoc]

theorem search_of_accepts (h : t.accepts v.host (candidate (baseName v) n)) :
    let name := candidate (baseName v) n
    t.Search v n [name] (name, if t.contains name then t else t.insert name v.host) := by
  intro name
  cases entry : t.entries.find? name with
  | none =>
    rw [contains, Dict.contains, entry]
    exact .free entry
  | some host =>
    cases accepts_iff.1 h host entry
    rw [contains, Dict.contains, entry]
    exact .held entry

/-- With an acceptable candidate in reach the bounded search does what the loop does. -/
theorem search_probe (fuel n : Nat)
    (h : ∃ i, n ≤ i ∧ i ≤ n + fuel ∧ t.accepts v.host (candidate (baseName v) i)) :
    let name := t.probe v.host (baseName v) n fuel
    ∃ looked, t.Search v n looked
        (name, if t.contains name then t else t.insert name v.host) ∧
      looked.length ≤ fuel + 1 := by
  induction fuel generalizing n with
  | zero =>
    obtain ⟨i, hni, hin, hi⟩ := h
    obtain rfl : i = n := by omega
    exact ⟨_, search_of_accepts hi, Nat.le_refl _⟩
  | succ fuel ih =>
    rw [probe]
    split
    · rename_i accepted
      exact ⟨_, search_of_accepts accepted, by simp⟩
    · rename_i refused
      obtain ⟨held, entry, other⟩ := not_accepts_iff.1 refused
      obtain ⟨i, hni, hin, hi⟩ := h
      have hne : i ≠ n := fun heq => refused (heq ▸ hi)
      obtain ⟨looked, later, few⟩ := ih (n + 1) ⟨i, by omega, by omega, hi⟩
      exact ⟨_, .taken entry other later, Nat.succ_le_succ few⟩

/-- Wherever the loop begins, it looks at one name more than there are entries at most. -/
theorem exists_search (t : VolumeTable) (v : Volume) (n : Nat) :
    ∃ looked result, t.Search v n looked result ∧ looked.length ≤ t.size + 1 := by
  obtain ⟨looked, search, few⟩ := search_probe t.size n (t.exists_accepted v.host (baseName v) n)
  exact ⟨looked, _, search, few⟩

theorem exists_search_register (t : VolumeTable) (v : Volume) :
    ∃ looked, t.Search v 0 looked (t.register v) ∧ looked.length ≤ t.size + 1 :=
  search_probe t.size 0 (t.exists_accepted v.host (baseName v) 0)

/-- In every table and for every volume the loop ends. The candidates are pairwise distinct. From
the `n`-th of them on the loop has one course and no other, and this course looks at the candidates
in order, at no more than one more of them than there are entries. The course from the base name on
ends with what `register` returns, so the number in a name exceeds that of the entries by one at
most, and a counter that can hold it never overflows. -/
theorem search_terminates (t : VolumeTable) (v : Volume) :
    Function.Injective (candidate (baseName v)) ∧
    (∀ n, ∃ i ≤ t.size, ∃ result,
      let looked := (List.range' n (i + 1)).map (candidate (baseName v))
      t.Search v n looked result ∧ result.1 = candidate (baseName v) (n + i) ∧ looked.Nodup ∧
      ∀ looked' result', t.Search v n looked' result' → looked' = looked ∧ result' = result) ∧
    ∃ looked, t.Search v 0 looked (t.register v) ∧ looked.length ≤ t.size + 1 ∧
      (t.entries.find? (t.register v).1 = none ∨
        t.entries.find? (t.register v).1 = some v.host) := by
  refine ⟨fun _ _ => candidate_injective (baseName v), ?_, ?_⟩
  · intro n
    obtain ⟨looked, result, search, few⟩ := t.exists_search v n
    obtain ⟨i, rfl, name⟩ := search.exists_candidates
    rw [List.length_map, List.length_range'] at few
    refine ⟨i, by omega, result, search, name, nodup_candidates _ n (i + 1), ?_⟩
    intro looked' result' search'
    exact search.unique search'
  · obtain ⟨looked, search, few⟩ := t.exists_search_register v
    refine ⟨looked, search, few, ?_⟩
    have accepted := accepts_iff.1 (t.accepts_nameFor v)
    cases entry : t.entries.find? (t.register v).1 with
    | none => exact .inl rfl
    | some host => exact .inr (congrArg some (accepted host entry))

/-- Every entry of this table is in the way of a volume that mounts `/data`. -/
def crowded : VolumeTable := run [
  .insert "data-2" none,
  .insert "data" (some "/srv"),
  .register { host := some "data/", container := "/x" }]

theorem search_terminates_crowded :
    let v : Volume := { host := some "/data", container := "/y" }
    let name := candidate (baseName v)
    let looked := [name 0, name 1, name 2, name 3]
    let result := (name 3, crowded.insert (name 3) v.host)
    looked = ["data", "data-2", "data-3", "data-4"] ∧ crowded.Search v 0 looked result ∧
      crowded.register v = result ∧ looked.length = crowded.size + 1 ∧
      looked.length ≤ crowded.size + 1 := by
  intro v name looked result
  have base : crowded.entries.find? (name 0) = some (some "/srv") := by decide
  have second : crowded.entries.find? (name 1) = some none := by decide
  have third : crowded.entries.find? (name 2) = some (some "data/") := by decide
  have fourth : crowded.entries.find? (name 3) = none := by decide
  have course : crowded.Search v 0 looked result :=
    .taken base (by decide) (.taken second (by decide) (.taken third (by decide) (.free fourth)))
  obtain ⟨_, unique, _, search, few, _⟩ := search_terminates crowded v
  obtain ⟨_, _, _, _, _, _, only⟩ := unique 0
  have listed := only _ _ course
  have returned := only _ _ search
  rw [← listed.1] at returned
  rw [returned.1] at few
  exact ⟨by decide, course, returned.2.trans listed.2.symm, by decide, few⟩

end Workload.VolumeTable
