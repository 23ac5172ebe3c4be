import Workload.Proofs.VolumeTable

/-! Runs over a table of named volumes. A volume is named by the first candidate that its table
accepts. Entries stay, so a candidate that was refused is refused in every later table, and what was
named once is named the same ever after. -/
namespace Workload.VolumeTable

inductive Step where
  | insert (name : String) (host : Option String)
  | register (v : Volume)

def step (t : VolumeTable) : Step → VolumeTable
  | .insert name host => t.insert name host
  | .register v => (t.register v).2

def run (steps : List Step) : VolumeTable := steps.foldl step empty

/-- Registers volumes one after the other; the names come in their order. -/
def registerAll (t : VolumeTable) : List Volume → List String × VolumeTable
  | [] => ([], t)
  | v :: vs =>
    let (name, t) := t.register v
    let (names, t) := registerAll t vs
    (name :: names, t)

theorem registerAll_cons (t : VolumeTable) (v : Volume) (vs : List Volume) :
    t.registerAll (v :: vs) =
      ((t.register v).1 :: ((t.register v).2.registerAll vs).1,
        ((t.register v).2.registerAll vs).2) := rfl

theorem registerAll_append (t : VolumeTable) (vs ws : List Volume) :
    t.registerAll (vs ++ ws) =
      ((t.registerAll vs).1 ++ ((t.registerAll vs).2.registerAll ws).1,
        ((t.registerAll vs).2.registerAll ws).2) := by
  induction vs generalizing t with
  | nil => rfl
  | cons v vs ih => rw [List.cons_append, registerAll_cons, ih, registerAll_cons, List.cons_append]

theorem length_registerAll (t : VolumeTable) (vs : List Volume) :
    (t.registerAll vs).1.length = vs.length := by
  induction vs generalizing t with
  | nil => rfl
  | cons v vs ih => exact congrArg Nat.succ (ih (t.register v).2)

theorem extends_registerAll (t : VolumeTable) (vs : List Volume) :
    t.Extends (t.registerAll vs).2 := by
  induction vs generalizing t with
  | nil => exact .refl t
  | cons v vs ih => exact (t.extends_register v).trans (ih (t.register v).2)

/-! The first acceptable candidate. -/

/-- The text that the candidates for a volume start with. -/
def baseName (v : Volume) : String := volumeBaseName (v.host.getD v.container)

theorem probe_eq_candidate (t : VolumeTable) (host : Option String) (base : String) (n fuel : Nat) :
    ∃ i, t.probe host base n fuel = candidate base i ∧ n ≤ i ∧
      ∀ j, n ≤ j → j < i → ¬ t.accepts host (candidate base j) := by
  induction fuel generalizing n with
  | zero => exact ⟨n, rfl, Nat.le_refl n, fun j hnj hjn => absurd hjn (by omega)⟩
  | succ fuel ih =>
    rw [probe]
    split
    · exact ⟨n, rfl, Nat.le_refl n, fun j hnj hjn => absurd hjn (by omega)⟩
    · rename_i refused
      obtain ⟨i, hi, hni, before⟩ := ih (n + 1)
      refine ⟨i, hi, by omega, ?_⟩
      intro j hnj hji
      by_cases h : j = n
      · exact h ▸ refused
      · exact before j (by omega) hji

theorem nameFor_eq_candidate_iff {t : VolumeTable} {v : Volume} {i : Nat} :
    t.nameFor v = candidate (baseName v) i ↔
      t.accepts v.host (candidate (baseName v) i) ∧
        ∀ j < i, ¬ t.accepts v.host (candidate (baseName v) j) := by
  obtain ⟨k, hk, _, before⟩ := t.probe_eq_candidate v.host (baseName v) 0 t.size
  have named : t.nameFor v = candidate (baseName v) k := hk
  have accepted := t.accepts_nameFor v
  rw [named] at accepted ⊢
  constructor
  · intro h
    cases candidate_injective _ h
    exact ⟨accepted, fun j hj => before j (Nat.zero_le j) hj⟩
  · rintro ⟨first, refused⟩
    -- both are the least accepted candidate, so neither comes before the other
    have hik : ¬ i < k := fun h => before i (Nat.zero_le i) h first
    have hki : ¬ k < i := fun h => refused k h accepted
    have : k = i := by omega
    rw [this]

theorem exists_nameFor_eq_candidate (t : VolumeTable) (v : Volume) :
    ∃ i, t.nameFor v = candidate (baseName v) i := by
  obtain ⟨i, hi, _⟩ := t.probe_eq_candidate v.host (baseName v) 0 t.size
  exact ⟨i, hi⟩

theorem not_accepts_of_extends {t u : VolumeTable} {host : Option String} {name : String}
    (grown : t.Extends u) (h : ¬ t.accepts host name) : ¬ u.accepts host name := by
  obtain ⟨held, found, other⟩ := not_accepts_iff.1 h
  exact not_accepts_iff.2 ⟨held, grown name held found, other⟩

/-- In a larger table a volume is named the same, if its name is still bound to its host path. -/
theorem nameFor_of_extends {t u : VolumeTable} {v : Volume} (grown : t.Extends u)
    (held : u.entries.find? (t.nameFor v) = some v.host) : u.nameFor v = t.nameFor v := by
  obtain ⟨i, hi⟩ := t.exists_nameFor_eq_candidate v
  obtain ⟨_, refused⟩ := nameFor_eq_candidate_iff.1 hi
  rw [hi] at held ⊢
  rw [nameFor_eq_candidate_iff]
  constructor
  · rw [accepts_iff]
    intro host found
    rw [held] at found
    exact (Option.some.inj found).symm
  · intro j hj
    exact not_accepts_of_extends grown (refused j hj)

theorem nameFor_congr_host (t : VolumeTable) {v w : Volume} (same : v.host = w.host)
    (bound : v.host.isSome) : t.nameFor v = t.nameFor w := by
  obtain ⟨path, hv⟩ := Option.isSome_iff_exists.1 bound
  have hw : w.host = some path := same ▸ hv
  unfold nameFor
  rw [hv, hw]
  rfl

theorem find?_register_self (t : VolumeTable) (v : Volume) :
    (t.register v).2.entries.find? (t.register v).1 = some v.host := by
  rw [find?_register, if_pos rfl]

theorem size_register_le (t : VolumeTable) (v : Volume) : (t.register v).2.size ≤ t.size + 1 := by
  unfold register
  dsimp only
  split
  · omega
  · exact Dict.size_insert_le t.entries _ _

/-- Registering once more, however much later, gives the same name and changes nothing. -/
theorem register_of_extends {t u : VolumeTable} {v : Volume} (grown : (t.register v).2.Extends u) :
    u.register v = ((t.register v).1, u) := by
  have held : u.entries.find? (t.nameFor v) = some v.host := grown _ _ (t.find?_register_self v)
  have named := nameFor_of_extends ((t.extends_register v).trans grown) held
  have present : u.contains (u.nameFor v) := by
    unfold contains Dict.contains
    rw [named, held]
    rfl
  unfold register
  dsimp only
  rw [if_pos present, named]

/-! Tables that only registration has filled. -/

/-- Every name of a host path is the one that its volumes get. -/
def Settled (t : VolumeTable) : Prop :=
  ∀ v name, v.host.isSome → t.entries.find? name = some v.host → t.nameFor v = name

theorem settled_empty : Settled empty := by
  intro v name _ found
  cases found

theorem Settled.register {t : VolumeTable} (h : t.Settled) (w : Volume) :
    (t.register w).2.Settled := by
  intro v name bound found
  have grown := t.extends_register w
  have earlier : t.nameFor v = name := by
    have step := found
    rw [find?_register] at step
    split at step
    · rename_i heq
      rw [heq]
      exact t.nameFor_congr_host (Option.some.inj step).symm bound
    · exact h v name bound step
  rw [← earlier] at found ⊢
  exact nameFor_of_extends grown found

theorem settled_registerAll {t : VolumeTable} (h : t.Settled) (vs : List Volume) :
    (t.registerAll vs).2.Settled := by
  induction vs generalizing t with
  | nil => exact h
  | cons v vs ih => exact ih (h.register v)

theorem Settled.name_unique {t : VolumeTable} (h : t.Settled) {path m n : String}
    (hm : t.entries.find? m = some (some path)) (hn : t.entries.find? n = some (some path)) :
    m = n := by
  have named := h { host := some path, container := "" }
  rw [← named m rfl hm, named n rfl hn]

theorem find?_registerAll {t : VolumeTable} {vs : List Volume} {v : Volume} {name : String}
    (h : (v, name) ∈ vs.zip (t.registerAll vs).1) :
    (t.registerAll vs).2.entries.find? name = some v.host := by
  induction vs generalizing t with
  | nil => cases h
  | cons w vs ih =>
    simp only [registerAll_cons, List.zip_cons_cons, List.mem_cons, Prod.mk.injEq] at h
    rcases h with ⟨rfl, rfl⟩ | later
    · exact extends_registerAll _ vs _ _ (t.find?_register_self v)
    · exact ih later

theorem mem_names_of_find? {t : VolumeTable} {vs : List Volume} {name : String}
    {host : Option String} (h : (t.registerAll vs).2.entries.find? name = some host) :
    name ∈ (t.registerAll vs).1 ∨ t.entries.find? name = some host := by
  induction vs generalizing t with
  | nil => exact .inr h
  | cons v vs ih =>
    rcases ih (t := (t.register v).2) h with later | held
    · exact .inl (List.mem_cons_of_mem _ later)
    · rw [find?_register] at held
      split at held
      · rename_i heq
        exact .inl (heq ▸ List.mem_cons_self)
      · exact .inr held

theorem exists_name_of_mem {t : VolumeTable} {vs : List Volume} {v : Volume} (h : v ∈ vs) :
    ∃ name, (v, name) ∈ vs.zip (t.registerAll vs).1 := by
  obtain ⟨i, hi, rfl⟩ := List.getElem_of_mem h
  have hname : i < (t.registerAll vs).1.length := by rwa [length_registerAll]
  refine ⟨(t.registerAll vs).1[i], ?_⟩
  rw [List.mem_iff_getElem]
  exact ⟨i, by simp [length_registerAll, hi], by simp⟩

theorem existsUnique_name {vs : List Volume} {v : Volume} (h : v ∈ vs) (bound : v.host.isSome) :
    ∃! name, (empty.registerAll vs).2.entries.find? name = some v.host := by
  obtain ⟨path, hpath⟩ := Option.isSome_iff_exists.1 bound
  obtain ⟨name, hname⟩ := exists_name_of_mem (t := empty) h
  have found := find?_registerAll hname
  rw [hpath] at found ⊢
  refine ⟨name, found, ?_⟩
  intro other hother
  exact (settled_registerAll settled_empty vs).name_unique hother found

/-- In any table registration keeps what is there, adds at most the name it returns, and returns
this name again whenever the volume comes back. In a table that registration alone has filled, names
and host paths belong together one to one, and volumes without a host path have other names. -/
theorem register_names_hosts_once :
    (∀ (steps : List Step) (v : Volume) (later : List Volume),
      let t := run steps
      let name := (t.register v).1
      let u := (t.register v).2
      let w := (u.registerAll later).2
      t.Extends u ∧ (∀ other, other ≠ name → u.entries.find? other = t.entries.find? other) ∧
      u.size ≤ t.size + 1 ∧
      u.entries.find? name = some v.host ∧ u.resolve name = v.host ∧ u.contains name ∧
      w.register v = (name, w)) ∧
    (∀ vs : List Volume,
      let names := (empty.registerAll vs).1
      let t := (empty.registerAll vs).2
      names.length = vs.length ∧
      (∀ v ∈ vs, v.host.isSome → ∃! name, t.entries.find? name = some v.host) ∧
      (∀ v m, (v, m) ∈ vs.zip names → ∀ w n, (w, n) ∈ vs.zip names →
        v.host.isSome → w.host.isSome → (m = n ↔ v.host = w.host)) ∧
      (∀ v m, (v, m) ∈ vs.zip names → v.host = none →
        ∀ path, t.entries.find? m ≠ some (some path))) := by
  constructor
  · intro steps v later t name u w
    have held : u.entries.find? name = some v.host := t.find?_register_self v
    refine ⟨t.extends_register v, ?_, t.size_register_le v, held, ?_, ?_, ?_⟩
    · intro other hne
      exact (t.find?_register v other).trans (if_neg hne)
    · exact resolve_register (.refl u)
    · exact Option.isSome_iff_exists.2 ⟨_, held⟩
    · exact register_of_extends (u.extends_registerAll later)
  · intro vs names t
    refine ⟨empty.length_registerAll vs, fun v hv bound => existsUnique_name hv bound, ?_, ?_⟩
    · intro v m hv w n hw bound _
      have hm := find?_registerAll hv
      have hn := find?_registerAll hw
      constructor
      · rintro rfl
        rw [hm] at hn
        exact Option.some.inj hn
      · intro same
        rw [← same] at hn
        exact (existsUnique_name (List.of_mem_zip hv).1 bound).unique hm hn
    · intro v m hv inner path found
      have hm := find?_registerAll hv
      rw [inner, found] at hm
      cases hm

def colliding : List Volume := [
  { container := "/a/b" },
  { host := some "/a/b", container := "/one" },
  { host := some "/a-b", container := "/two" },
  { host := some "/a/b", container := "/three", readOnly := true }]

theorem register_names_hosts_once_colliding :
    (empty.registerAll colliding).1 = ["a-b", "a-b-2", "a-b-3", "a-b-2"] ∧
    (∃! name, (empty.registerAll colliding).2.entries.find? name = some (some "/a/b")) ∧
    ("a-b-2" = "a-b-3" ↔ some "/a/b" = some "/a-b") ∧
    (∀ path, (empty.registerAll colliding).2.entries.find? "a-b" ≠ some (some path)) ∧
    (let v : Volume := { host := some "/a/b", container := "/one" }
     let u := ((run [.insert "a-b" none]).register v).2
     u.entries.find? "a-b" = some none ∧
     (u.registerAll colliding).2.register v = ("a-b-2", (u.registerAll colliding).2)) := by
  have names : (empty.registerAll colliding).1 = ["a-b", "a-b-2", "a-b-3", "a-b-2"] := by decide
  obtain ⟨_, unique, same, inner⟩ := register_names_hosts_once.2 colliding
  rw [names] at same inner
  have shared : ({ host := some "/a/b", container := "/one" } : Volume) ∈ colliding := by decide
  -- the second and the third volume, and the first one
  have second := same { host := some "/a/b", container := "/one" } "a-b-2" (by decide)
    { host := some "/a-b", container := "/two" } "a-b-3" (by decide) rfl rfl
  have first := inner { container := "/a/b" } "a-b" (by decide) rfl
  obtain ⟨_, others, _, _, _, _, again⟩ := register_names_hosts_once.1 [.insert "a-b" none]
    { host := some "/a/b", container := "/one" } colliding
  exact ⟨names, unique _ shared rfl, second, first, others "a-b" (by decide), again⟩

end Workload.VolumeTable
