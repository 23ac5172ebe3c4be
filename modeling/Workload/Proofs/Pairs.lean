import Workload.Codec.Pairs
import Workload.Proofs.Dict

/-! Tables of texts and their lists of `KEY=value` items. A list is read as a table in which the last
item for a key counts, and every table is listed in the order of its keys. -/
namespace Workload.Pairs

/-- What an item binds: the text before its first `=` is the key and the text after it the value,
and without `=` all of it is the key of the empty value. -/
inductive Binds : String → String → String → Prop
  | pair {key : String} (plain : '=' ∉ key.toList) (value : String) :
      Binds (key ++ "=" ++ value) key value
  | bare {key : String} (plain : '=' ∉ key.toList) : Binds key key ""

variable {item key value : String} {items : List String}

theorem splitPair_pair (plain : '=' ∉ key.toList) (text : String) :
    splitPair (key ++ "=" ++ text) = (key, text) := by
  have cut := Text.splitFirst_append text.toList plain
  simp [splitPair, cut]

theorem splitPair_bare (plain : '=' ∉ key.toList) : splitPair key = (key, "") := by
  simp [splitPair, Text.splitFirst_eq_none_iff.2 plain]

theorem Binds.plain (h : Binds item key value) : '=' ∉ key.toList := by
  cases h with
  | pair plain => exact plain
  | bare plain => exact plain

theorem exists_binds (item : String) : ∃ key value, Binds item key value := by
  by_cases inside : '=' ∈ item.toList
  · obtain ⟨key, value, split, plain⟩ := List.eq_append_cons_of_mem inside
    have written : item = String.ofList key ++ "=" ++ String.ofList value := by
      rw [← String.toList_inj, split]
      simp
    rw [written]
    exact ⟨_, _, .pair (by simpa using plain) _⟩
  · exact ⟨item, "", .bare inside⟩

theorem binds_iff : Binds item key value ↔ splitPair item = (key, value) := by
  have split {key value : String} (h : Binds item key value) : splitPair item = (key, value) := by
    cases h with
    | pair plain value => exact splitPair_pair plain value
    | bare plain => exact splitPair_bare plain
  refine ⟨split, fun h => ?_⟩
  obtain ⟨key', value', bound⟩ := exists_binds item
  rw [split bound, Prod.mk.injEq] at h
  exact h.1 ▸ h.2 ▸ bound

/-- The last item that binds the key binds it to the value. -/
def LastBinds (items : List String) (key value : String) : Prop :=
  ∃ before item after, items = before ++ item :: after ∧ Binds item key value ∧
    ∀ later ∈ after, ∀ other, ¬Binds later key other

theorem mem_keys_ofList_iff :
    key ∈ (ofList items).keys ↔ ∃ item ∈ items, ∃ value, Binds item key value := by
  unfold ofList
  rw [Dict.mem_keys_ofList_iff, List.map_map, List.mem_map]
  simp only [binds_iff, Prod.ext_iff, Function.comp_apply, exists_and_left, exists_eq', and_true]

theorem find?_ofList_eq_some_iff :
    (ofList items).find? key = some value ↔ LastBinds items key value := by
  have unbound (item : String) : (splitPair item).1 ≠ key ↔ ∀ other, ¬Binds item key other := by
    simp [binds_iff, Prod.ext_iff]
  unfold ofList LastBinds
  rw [Dict.find?_ofList_map_eq_some_iff]
  simp only [unbound, binds_iff]

theorem forall₂_toList (d : Dict String) :
    List.Forall₂ (fun item key => ∃ value, d.find? key = some value ∧ item = key ++ "=" ++ value)
      (toList d) d.keys := by
  unfold toList Dict.keys
  rw [List.forall₂_map_left_iff, List.forall₂_map_right_iff, List.forall₂_same]
  exact fun e mem => ⟨e.2, Dict.find?_eq_some_iff.2 mem, rfl⟩

theorem ofList_toList {d : Dict String} (plain : ∀ key ∈ d.keys, '=' ∉ key.toList) :
    ofList (toList d) = d := by
  have split : (toList d).map splitPair = d.entries := by
    unfold toList
    rw [List.map_map]
    refine (List.map_congr_left fun e mem => ?_).trans (List.map_id d.entries)
    exact splitPair_pair (plain e.1 (List.mem_map_of_mem mem)) e.2
  rw [ofList, split, Dict.ofList_entries]

theorem ofList_toList_iff {d : Dict String} :
    ofList (toList d) = d ↔ ∀ key ∈ d.keys, '=' ∉ key.toList := by
  constructor
  · intro same key mem
    rw [← same, mem_keys_ofList_iff] at mem
    obtain ⟨_, _, _, bound⟩ := mem
    exact bound.plain
  · exact ofList_toList

/-- A table survives as its items exactly when no key has a `=`. Of any items the table has their
keys, each with the value of the last item that binds it, and lists each of them once, in order. -/
theorem items_exact :
    (∀ d : Dict String, ofList (toList d) = d ↔ ∀ key ∈ d.keys, '=' ∉ key.toList) ∧
    ∀ items : List String,
      (∀ key, key ∈ (ofList items).keys ↔ ∃ item ∈ items, ∃ value, Binds item key value) ∧
      (∀ key value, (ofList items).find? key = some value ↔ LastBinds items key value) ∧
      ∃ keys : List String, keys.Pairwise (· < ·) ∧
        (∀ key, key ∈ keys ↔ ∃ item ∈ items, ∃ value, Binds item key value) ∧
        List.Forall₂ (fun item key => ∃ value, LastBinds items key value ∧
          item = key ++ "=" ++ value) (toList (ofList items)) keys := by
  refine ⟨fun _ => ofList_toList_iff, fun items => ⟨fun _ => mem_keys_ofList_iff,
    fun _ _ => find?_ofList_eq_some_iff, (ofList items).keys, ?_, fun _ => mem_keys_ofList_iff, ?_⟩⟩
  · exact List.pairwise_map.2 (ofList items).ascending
  · simpa only [find?_ofList_eq_some_iff] using forall₂_toList (ofList items)

example : toList (ofList ["A!=2", "A=0", "A=1=", "A"]) = ["A=", "A!=2"] := by decide

end Workload.Pairs
