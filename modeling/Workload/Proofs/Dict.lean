import Workload.Dict
import Mathlib.Data.List.Dedup

/-! Look-ups in tables. A table is determined by its look-ups, so entries with distinct keys make
the same table in every order. -/
namespace Workload.Dict
variable {α : Type u} {β : Type v} {ε : Type w}

theorem lookup_cons_eq_if (e : String × α) (es : List (String × α)) (k : String) :
    (e :: es).lookup k = if k = e.1 then some e.2 else es.lookup k := by
  rw [List.lookup_cons]
  by_cases h : k = e.1
  · simp [h]
  · simp [h, beq_eq_false_iff_ne.2 h]

theorem lookup_eq_some_iff {es : List (String × α)} (h : (es.map (·.1)).Nodup) {k : String}
    {v : α} : es.lookup k = some v ↔ (k, v) ∈ es := by
  induction es with
  | nil => simp
  | cons e es ih =>
    obtain ⟨k', v'⟩ := e
    rw [List.map_cons, List.nodup_cons] at h
    rw [lookup_cons_eq_if]
    by_cases hk : k = k'
    · subst hk
      have hnot : (k, v) ∉ es := fun hm => h.1 (List.mem_map.2 ⟨_, hm, rfl⟩)
      simp [hnot, eq_comm]
    · simp [hk, ih h.2]

theorem lookup_perm {es fs : List (String × α)} (h : es.Perm fs) (hes : (es.map (·.1)).Nodup)
    (k : String) : es.lookup k = fs.lookup k := by
  have hfs : (fs.map (·.1)).Nodup := (h.map _).nodup_iff.1 hes
  apply Option.ext
  intro v
  rw [lookup_eq_some_iff hes, lookup_eq_some_iff hfs, h.mem_iff]

theorem lookup_place (key : String) (value : α) (es : List (String × α)) (k : String) :
    (place key value es).lookup k = if k = key then some value else es.lookup k := by
  induction es with
  | nil => rw [place, lookup_cons_eq_if]
  | cons e es ih =>
    simp only [place]
    split
    · rw [lookup_cons_eq_if]
    · split
      · rename_i heq
        rw [lookup_cons_eq_if, lookup_cons_eq_if, heq]
        split <;> rfl
      · rename_i hne
        rw [lookup_cons_eq_if, lookup_cons_eq_if, ih]
        by_cases h : k = key
        · subst h
          simp [hne]
        · simp [h]

theorem find?_insert (d : Dict α) (key : String) (value : α) (k : String) :
    (d.insert key value).find? k = if k = key then some value else d.find? k :=
  lookup_place key value d.entries k

theorem length_place_le (key : String) (value : α) (es : List (String × α)) :
    (place key value es).length ≤ es.length + 1 := by
  induction es with
  | nil => simp [place]
  | cons e es ih =>
    simp only [place]
    split
    · simp
    · split
      · simp
      · simpa using ih

theorem size_insert_le (d : Dict α) (key : String) (value : α) :
    (d.insert key value).size ≤ d.size + 1 :=
  length_place_le key value d.entries

theorem nodup_keys (d : Dict α) : d.keys.Nodup := by
  unfold keys List.Nodup
  rw [List.pairwise_map]
  refine d.ascending.imp ?_
  intro a b hlt heq
  exact String.lt_irrefl _ (heq ▸ hlt)

theorem find?_eq_some_iff {d : Dict α} {k : String} {v : α} :
    d.find? k = some v ↔ (k, v) ∈ d.entries :=
  lookup_eq_some_iff d.nodup_keys

theorem ext_find? {d e : Dict α} (h : ∀ k, d.find? k = e.find? k) : d = e := by
  have mem (x : String × α) : x ∈ d.entries ↔ x ∈ e.entries := by
    rw [← find?_eq_some_iff (d := d), ← find?_eq_some_iff (d := e), h]
  have perm := (List.perm_ext_iff_of_nodup (List.Nodup.of_map _ d.nodup_keys)
    (List.Nodup.of_map _ e.nodup_keys)).2 mem
  have anti (a b : String × α) (_ : a ∈ d.entries) (_ : b ∈ e.entries) (hab : a.1 < b.1)
      (hba : b.1 < a.1) : a = b := absurd hba (String.lt_asymm hab)
  exact ext (perm.eq_of_pairwise anti d.ascending e.ascending)

theorem find?_foldl_insert (es : List (String × α)) (d : Dict α) (k : String) :
    (es.foldl (fun d e => d.insert e.1 e.2) d).find? k = (es.reverse.lookup k).or (d.find? k) := by
  induction es generalizing d with
  | nil => simp
  | cons e es ih =>
    rw [List.foldl_cons, ih, find?_insert, List.reverse_cons, List.lookup_append,
      lookup_cons_eq_if]
    split <;> simp

theorem find?_ofList (es : List (String × α)) (k : String) :
    (ofList es).find? k = es.reverse.lookup k := by
  rw [ofList, find?_foldl_insert]
  exact Option.or_none

theorem find?_ofList_eq_some_iff_last {es : List (String × α)} {k : String} {v : α} :
    (ofList es).find? k = some v ↔
      ∃ before after, es = before ++ (k, v) :: after ∧ ∀ e ∈ after, e.1 ≠ k := by
  rw [find?_ofList, List.lookup_eq_some_iff]
  constructor
  · rintro ⟨after, before, split, later⟩
    refine ⟨before.reverse, after.reverse, ?_, fun e mem => ?_⟩
    · rw [← List.reverse_reverse es, split]
      simp
    · exact (bne_iff_ne.1 (later e (List.mem_reverse.1 mem))).symm
  · rintro ⟨before, after, rfl, later⟩
    refine ⟨after.reverse, before.reverse, by simp, fun e mem => ?_⟩
    exact bne_iff_ne.2 (later e (List.mem_reverse.1 mem)).symm

theorem find?_ofList_map_eq_some_iff {f : β → String × α} {xs : List β} {k : String} {v : α} :
    (ofList (xs.map f)).find? k = some v ↔
      ∃ before x after, xs = before ++ x :: after ∧ f x = (k, v) ∧ ∀ y ∈ after, (f y).1 ≠ k := by
  rw [find?_ofList_eq_some_iff_last]
  constructor
  · rintro ⟨before, after, split, later⟩
    obtain ⟨before, rest, rfl, -, tail⟩ := List.map_eq_append_iff.1 split
    obtain ⟨x, after, rfl, here, rfl⟩ := List.map_eq_cons_iff.1 tail
    exact ⟨before, x, after, rfl, here, fun y mem => later _ (List.mem_map_of_mem mem)⟩
  · rintro ⟨before, x, after, rfl, here, later⟩
    refine ⟨before.map f, after.map f, ?_, List.forall_mem_map.2 later⟩
    rw [List.map_append, List.map_cons, here]

theorem mem_of_find?_ofList {es : List (String × α)} {k : String} {v : α}
    (h : (ofList es).find? k = some v) : (k, v) ∈ es := by
  obtain ⟨before, after, rfl, -⟩ := find?_ofList_eq_some_iff_last.1 h
  exact List.mem_append_right before List.mem_cons_self

theorem find?_ofList_eq_some_iff {es : List (String × α)} (h : (es.map (·.1)).Nodup) {k : String}
    {v : α} : (ofList es).find? k = some v ↔ (k, v) ∈ es := by
  rw [find?_ofList, lookup_eq_some_iff, List.mem_reverse]
  rw [List.map_reverse]
  exact List.nodup_reverse.2 h

theorem ofList_perm {es fs : List (String × α)} (h : es.Perm fs) (hes : (es.map (·.1)).Nodup) :
    ofList es = ofList fs := by
  apply ext_find?
  intro k
  have reversed : es.reverse.Perm fs.reverse :=
    (List.reverse_perm es).trans (h.trans (List.reverse_perm fs).symm)
  rw [find?_ofList, find?_ofList, lookup_perm reversed]
  rw [List.map_reverse]
  exact List.nodup_reverse.2 hes

theorem mem_keys_iff {d : Dict α} {k : String} : k ∈ d.keys ↔ (d.find? k).isSome := by
  rw [Option.isSome_iff_exists, keys, List.mem_map]
  constructor
  · rintro ⟨e, he, rfl⟩
    exact ⟨e.2, find?_eq_some_iff.2 he⟩
  · rintro ⟨v, found⟩
    exact ⟨(k, v), find?_eq_some_iff.1 found, rfl⟩

theorem eq_keys_of_ascending {d : Dict α} {names : List String}
    (ascending : names.Pairwise (· < ·)) (same : ∀ k, k ∈ names ↔ k ∈ d.keys) :
    names = d.keys := by
  have nodup : names.Nodup := by
    refine ascending.imp ?_
    intro a b hlt heq
    exact String.lt_irrefl _ (heq ▸ hlt)
  have perm := (List.perm_ext_iff_of_nodup nodup d.nodup_keys).2 same
  have keys : d.keys.Pairwise (· < ·) := List.pairwise_map.2 d.ascending
  exact perm.eq_of_pairwise (fun a b _ _ hab hba => absurd hba (String.lt_asymm hab)) ascending keys

theorem isSome_lookup_iff {es : List (String × α)} {k : String} :
    (es.lookup k).isSome ↔ k ∈ es.map (·.1) := by
  induction es with
  | nil => simp
  | cons e es ih =>
    rw [lookup_cons_eq_if, List.map_cons, List.mem_cons]
    split
    · simp [*]
    · simp [*]

theorem mem_keys_ofList_iff {es : List (String × α)} {k : String} :
    k ∈ (ofList es).keys ↔ k ∈ es.map (·.1) := by
  rw [mem_keys_iff, find?_ofList, isSome_lookup_iff, List.map_reverse, List.mem_reverse]

theorem keys_ofList_perm (es : List (String × α)) :
    (ofList es).keys.Perm (es.map (·.1)).dedup := by
  rw [List.perm_ext_iff_of_nodup (ofList es).nodup_keys (List.nodup_dedup _)]
  intro k
  rw [mem_keys_ofList_iff, List.mem_dedup]

@[simp] theorem ofList_entries (d : Dict α) : ofList d.entries = d := by
  apply ext_find?
  intro k
  apply Option.ext
  intro v
  rw [find?_ofList_eq_some_iff d.nodup_keys, find?_eq_some_iff]

theorem entries_ofList_perm {es : List (String × α)} (h : (es.map (·.1)).Nodup) :
    (ofList es).entries.Perm es := by
  rw [List.perm_ext_iff_of_nodup (List.Nodup.of_map _ (ofList es).nodup_keys)
    (List.Nodup.of_map _ h)]
  rintro ⟨k, v⟩
  rw [← find?_eq_some_iff, find?_ofList_eq_some_iff h]

theorem entries_ofList {es : List (String × α)} (h : es.Pairwise (fun a b => a.1 < b.1)) :
    (ofList es).entries = es :=
  congrArg entries (ofList_entries ⟨es, h⟩)

@[simp] theorem entries_map (f : α → β) (d : Dict α) :
    (d.map f).entries = d.entries.map fun e => (e.1, f e.2) := rfl

theorem mapM_eq_ok {f : String → α → Except ε β} {d : Dict α} {bs : List (String × β)}
    (h : mapEntries f d.entries = .ok bs) :
    d.mapM f = .ok ⟨bs, pairwise_keys (keys_mapEntries h) d.ascending⟩ := by
  unfold mapM
  split
  · rename_i bs' h'
    rw [h] at h'
    cases h'
    rfl
  · rename_i h'
    rw [h] at h'
    cases h'

theorem exists_of_mapM_eq_error {f : String → α → Except ε β} {d : Dict α} {e : ε}
    (h : d.mapM f = .error e) : ∃ x ∈ d.entries, f x.1 x.2 = .error e := by
  have entries (es : List (String × α)) (h : mapEntries f es = .error e) :
      ∃ x ∈ es, f x.1 x.2 = .error e := by
    induction es with
    | nil => cases h
    | cons x es ih =>
      simp only [mapEntries, bind, Except.bind] at h
      split at h
      · rename_i failed
        cases h
        exact ⟨x, List.mem_cons_self, failed⟩
      · split at h
        · rename_i failed
          cases h
          obtain ⟨y, mem, hy⟩ := ih failed
          exact ⟨y, List.mem_cons_of_mem _ mem, hy⟩
        · cases h
  unfold mapM at h
  split at h
  · cases h
  · rename_i failed
    cases h
    exact entries d.entries failed

theorem mapM_map {γ : Type x} {f : String → β → Except ε γ} {g : α → β} {i : α → γ}
    (h : ∀ k a, f k (g a) = .ok (i a)) (d : Dict α) : (d.map g).mapM f = .ok (d.map i) := by
  have entries (es : List (String × α)) :
      mapEntries f (es.map fun e => (e.1, g e.2)) = .ok (es.map fun e => (e.1, i e.2)) := by
    induction es with
    | nil => rfl
    | cons e es ih => simp [mapEntries, h, ih, bind, Except.bind]
  rw [mapM_eq_ok (entries d.entries)]
  rfl

theorem lookup_map (f : α → β) (es : List (String × α)) (k : String) :
    (es.map fun e => (e.1, f e.2)).lookup k = (es.lookup k).map f := by
  induction es with
  | nil => rfl
  | cons e es ih =>
    rw [List.map_cons, lookup_cons_eq_if, lookup_cons_eq_if, ih]
    split <;> rfl

theorem map_ofList (f : α → β) (es : List (String × α)) :
    (ofList es).map f = ofList (es.map fun e => (e.1, f e.2)) := by
  apply ext_find?
  intro k
  rw [find?_ofList, ← List.map_reverse, lookup_map, ← find?_ofList]
  exact lookup_map f (ofList es).entries k

theorem mapM_eq_error {f : String → α → Except ε β} {d : Dict α} {e : ε}
    (h : mapEntries f d.entries = .error e) : d.mapM f = .error e := by
  unfold mapM
  split
  · rename_i h'
    rw [h] at h'
    cases h'
  · rename_i h'
    rw [h] at h'
    cases h'
    rfl

theorem mapM_comp {γ : Type x} (f : String → β → Except ε γ) (g : α → β) (d : Dict α) :
    (d.mapM fun k a => f k (g a)) = (d.map g).mapM f := by
  have entries (es : List (String × α)) :
      mapEntries (fun k a => f k (g a)) es = mapEntries f (es.map fun e => (e.1, g e.2)) := by
    induction es with
    | nil => rfl
    | cons e es ih => rw [List.map_cons, mapEntries, mapEntries, ih]
  cases read : mapEntries f (d.map g).entries with
  | ok bs => rw [mapM_eq_ok read, mapM_eq_ok ((entries d.entries).trans read)]
  | error e => rw [mapM_eq_error read, mapM_eq_error ((entries d.entries).trans read)]

theorem lookup_rel {R : String → α → β → Prop} {es : List (String × α)} {fs : List (String × β)}
    (h : List.Forall₂ (fun e f => e.1 = f.1 ∧ R e.1 e.2 f.2) es fs) (k : String) :
    Option.Rel (R k) (es.lookup k) (fs.lookup k) := by
  induction h with
  | nil => exact .none
  | @cons e f es fs head _ ih =>
    rw [lookup_cons_eq_if, lookup_cons_eq_if, ← head.1]
    split
    · rename_i here
      exact .some (here ▸ head.2)
    · exact ih

end Workload.Dict
