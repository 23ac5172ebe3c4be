import Workload.Proofs.VolumeTable.Run

/-! Names of volumes without a host path. Such a volume takes the first candidate that stands for no
host path, also if another volume without one has it already. So its name follows from its own path
and the names of the host paths, and two of them may share one. -/
namespace Workload.VolumeTable

theorem nameFor_registerAll {t : VolumeTable} {vs : List Volume} {v : Volume} {name : String}
    (h : (v, name) ∈ vs.zip (t.registerAll vs).1) : (t.registerAll vs).2.nameFor v = name := by
  induction vs generalizing t with
  | nil => cases h
  | cons w vs ih =>
    simp only [registerAll_cons, List.zip_cons_cons, List.mem_cons, Prod.mk.injEq] at h
    rcases h with ⟨rfl, rfl⟩ | later
    · exact congrArg Prod.fst (register_of_extends (extends_registerAll _ vs))
    · exact ih later

/-- The first candidate after a base name that stands for no host path. -/
def FirstInner (t : VolumeTable) (base name : String) : Prop :=
  ∃ i, name = candidate base i ∧ t.resolve name = none ∧
    ∀ j < i, t.resolve (candidate base j) ≠ none

theorem FirstInner.unique {t : VolumeTable} {base m n : String} (hm : t.FirstInner base m)
    (hn : t.FirstInner base n) : m = n := by
  obtain ⟨i, rfl, him, before⟩ := hm
  obtain ⟨k, rfl, hkn, earlier⟩ := hn
  have hik : ¬ i < k := fun h => earlier i h him
  have hki : ¬ k < i := fun h => before k h hkn
  have : i = k := by omega
  rw [this]

theorem firstInner_iff_of_free {t : VolumeTable} {base name : String}
    (free : t.resolve base = none) : t.FirstInner base name ↔ name = base := by
  have first : t.FirstInner base base := ⟨0, rfl, free, by simp⟩
  constructor
  · intro h
    exact h.unique first
  · rintro rfl
    exact first

theorem accepts_none_iff {t : VolumeTable} {name : String} :
    t.accepts none name ↔ t.resolve name = none := by
  unfold accepts resolve
  cases t.entries.find? name <;> simp

theorem firstInner_nameFor (t : VolumeTable) {v : Volume} (inner : v.host = none) :
    t.FirstInner (baseName v) (t.nameFor v) := by
  obtain ⟨i, hi⟩ := t.exists_nameFor_eq_candidate v
  obtain ⟨accepted, refused⟩ := nameFor_eq_candidate_iff.1 hi
  rw [inner] at accepted refused
  refine ⟨i, hi, ?_, ?_⟩
  · rw [hi]
    exact accepts_none_iff.1 accepted
  · intro j hj hnone
    exact refused j hj (accepts_none_iff.2 hnone)

/-! Paths that their base names tell apart. -/

/-- A path from the root without hyphens, and without a further slash at either end. -/
structure PlainPath (path : String) : Prop where
  root : path.toList.head? = some '/'
  hyphen : '-' ∉ path.toList
  ends : Text.Trimmed (· == '/') path.toList.tail

def hyphenated (c : Char) : Char := if c = '/' then '-' else c

/-- The path that a base name was made from. -/
def pathOfBase (base : String) : String :=
  String.ofList ('/' :: base.toList.map fun c => if c = '-' then '/' else c)

theorem hyphenated_beq {c : Char} (h : c ≠ '-') : (hyphenated c == '-') = (c == '/') := by
  unfold hyphenated
  split <;> simp [*]

theorem trimmed_map_hyphenated {cs : List Char} (hyphen : '-' ∉ cs)
    (ends : Text.Trimmed (· == '/') cs) : Text.Trimmed (· == '-') (cs.map hyphenated) := by
  have stays {c : Char} (hc : c ∈ cs) : (hyphenated c == '-') = (c == '/') :=
    hyphenated_beq fun heq => hyphen (heq ▸ hc)
  constructor
  · intro c hc
    rw [List.head?_map] at hc
    obtain ⟨d, hd, rfl⟩ := Option.map_eq_some_iff.1 hc
    rw [stays (List.mem_of_head? hd)]
    exact ends.head d hd
  · intro c hc
    rw [List.getLast?_map] at hc
    obtain ⟨d, hd, rfl⟩ := Option.map_eq_some_iff.1 hc
    rw [stays (List.mem_of_getLast? hd)]
    exact ends.last d hd

theorem volumeBaseName_of_plain {path : String} {cs : List Char} (hpath : path.toList = '/' :: cs)
    (hyphen : '-' ∉ cs) (ends : Text.Trimmed (· == '/') cs) :
    volumeBaseName path = String.ofList (cs.map hyphenated) := by
  unfold volumeBaseName
  rw [hpath]
  apply congrArg String.ofList
  cases cs with
  | nil => rfl
  | cons c cs =>
    have trim : Text.trimWhile (· == '-') (['-'] ++ (c :: cs).map hyphenated ++ []) =
        (c :: cs).map hyphenated :=
      Text.trimWhile_append (by simp) (trimmed_map_hyphenated hyphen ends) (by simp) (by simp)
    rwa [List.append_nil] at trim

theorem pathOfBase_volumeBaseName {path : String} (plain : PlainPath path) :
    pathOfBase (volumeBaseName path) = path := by
  obtain ⟨root, hyphen, ends⟩ := plain
  obtain ⟨cs, hpath⟩ := List.head?_eq_some_iff.1 root
  rw [hpath] at hyphen ends
  have hyphen : '-' ∉ cs := fun h => hyphen (List.mem_cons_of_mem _ h)
  have back : (cs.map hyphenated).map (fun c => if c = '-' then '/' else c) = cs := by
    rw [List.map_map]
    refine (List.map_congr_left ?_).trans (List.map_id cs)
    intro c hc
    have hne : c ≠ '-' := fun heq => hyphen (heq ▸ hc)
    by_cases h : c = '/' <;> simp [hyphenated, h, hne]
  rw [volumeBaseName_of_plain hpath hyphen ends, pathOfBase, String.toList_ofList, back, ← hpath,
    String.ofList_toList]

theorem baseName_eq_iff_of_plain {v w : Volume} (hv : v.host = none) (hw : w.host = none)
    (plain : PlainPath v.container) (plain' : PlainPath w.container) :
    baseName v = baseName w ↔ v.container = w.container := by
  unfold baseName
  rw [hv, hw, Option.getD_none, Option.getD_none]
  constructor
  · intro h
    rw [← pathOfBase_volumeBaseName plain, h, pathOfBase_volumeBaseName plain']
  · exact congrArg volumeBaseName

/-! The names that a run gives out. -/

/-- The name of a volume without a host path is the first candidate that stands for no host path at
the end of the run. Two such volumes have one name exactly if these candidates meet: those of equal
base names always do, and those of different plain paths do not unless a host path has one of their
base names. -/
theorem inner_name_eq_iff (vs : List Volume) :
    let names := (empty.registerAll vs).1
    let t := (empty.registerAll vs).2
    ∀ v m, (v, m) ∈ vs.zip names → ∀ w n, (w, n) ∈ vs.zip names →
      v.host = none → w.host = none →
      t.FirstInner (baseName v) m ∧
      (m = n ↔ t.FirstInner (baseName w) m) ∧
      (baseName v = baseName w → m = n) ∧
      (t.resolve (baseName v) = none → t.resolve (baseName w) = none →
        (m = n ↔ baseName v = baseName w) ∧
        (PlainPath v.container → PlainPath w.container → (m = n ↔ v.container = w.container))) := by
  intro names t v m hv w n hw vinner winner
  have first : t.FirstInner (baseName v) m := nameFor_registerAll hv ▸ t.firstInner_nameFor vinner
  have second : t.FirstInner (baseName w) n := nameFor_registerAll hw ▸ t.firstInner_nameFor winner
  have met : m = n ↔ t.FirstInner (baseName w) m := by
    constructor
    · rintro rfl
      exact second
    · intro h
      exact h.unique second
  refine ⟨first, met, ?_, ?_⟩
  · intro same
    exact met.2 (same ▸ first)
  · intro vfree wfree
    have bases : m = n ↔ baseName v = baseName w := by
      rw [(firstInner_iff_of_free vfree).1 first, (firstInner_iff_of_free wfree).1 second]
    refine ⟨bases, ?_⟩
    intro plain plain'
    rw [bases]
    exact baseName_eq_iff_of_plain vinner winner plain plain'

/-- A host path has taken the name of the second volume, whose suffixed name is then that of the
third. -/
def sharing : List Volume := [
  { host := some "/a", container := "/one" },
  { container := "/a" },
  { container := "/a/2" },
  { container := "/b" }]

theorem inner_name_eq_iff_sharing :
    (empty.registerAll sharing).1 = ["a", "a-2", "a-2", "b"] ∧
    (empty.registerAll sharing.reverse).1 = ["b", "a-2", "a", "a-3"] ∧
    (empty.registerAll sharing).2.FirstInner "a" "a-2" ∧
    (empty.registerAll sharing).2.FirstInner "a-2" "a-2" ∧
    ("a-2" = "b" ↔ "/a/2" = "/b") := by
  have names : (empty.registerAll sharing).1 = ["a", "a-2", "a-2", "b"] := by decide
  have law := inner_name_eq_iff sharing
  rw [names] at law
  have shared := law { container := "/a" } "a-2" (by decide) { container := "/a/2" } "a-2"
    (by decide) rfl rfl
  have apart := law { container := "/a/2" } "a-2" (by decide) { container := "/b" } "b"
    (by decide) rfl rfl
  have plain : PlainPath "/a/2" := ⟨by decide, by decide, ⟨by simp, by simp⟩⟩
  have plain' : PlainPath "/b" := ⟨by decide, by decide, ⟨by simp, by simp⟩⟩
  refine ⟨names, by decide, shared.1, shared.2.1.1 rfl, ?_⟩
  exact (apart.2.2.2 (by decide) (by decide)).2 plain plain'

theorem inner_name_not_injective :
    ¬ ∀ (vs : List Volume) (v w : Volume) (name : String),
      (v, name) ∈ vs.zip (empty.registerAll vs).1 → (w, name) ∈ vs.zip (empty.registerAll vs).1 →
      v.host = none → w.host = none → v.container = w.container := by
  intro h
  have same := h [{ container := "/a/b" }, { container := "/a-b" }] { container := "/a/b" }
    { container := "/a-b" } "a-b" (by decide) (by decide) rfl rfl
  exact absurd same (by decide)

end Workload.VolumeTable
