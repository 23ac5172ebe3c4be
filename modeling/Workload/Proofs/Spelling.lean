import Workload.Proofs.Build
import Workload.Proofs.Pairs

/-! Fields that have two spellings. Each spelling is decoded by a path of its own, and both paths end
in one value. -/
namespace Workload

namespace Pairs
variable {dialect : Dialect} {entries : List (String × Value)} {items : List String}

/-- The item for a key and its scalar: `key=text`, or the bare key of a null. -/
def scalarItem? (key : String) : Scalar → Option String
  | .int n => some (key ++ "=" ++ numeral n.toNat)
  | .text s => some (key ++ "=" ++ s)
  | .null => some key
  | .unsupported _ => none

def item? (e : String × Value) : Option String :=
  if '=' ∈ e.1.toList then none else (Scalar.ofValue? e.2).bind (scalarItem? e.1)

theorem toText_of_item {key item : String} (clean : '=' ∉ key.toList) {s : Scalar}
    (h : scalarItem? key s = some item) :
    (splitPair item).1 = key ∧ s.toText = .ok (splitPair item).2 := by
  cases s with
  | unsupported found => cases h
  | null =>
    cases h
    rw [splitPair_bare clean]
    exact ⟨rfl, rfl⟩
  | int n =>
    cases h
    rw [splitPair_pair clean]
    exact ⟨rfl, rfl⟩
  | text s =>
    cases h
    rw [splitPair_pair clean]
    exact ⟨rfl, rfl⟩

theorem item?_eq_some {e : String × Value} {item : String} (h : item? e = some item) :
    '=' ∉ e.1.toList ∧ ∃ s, Scalar.ofValue? e.2 = some s ∧ scalarItem? e.1 s = some item := by
  unfold item? at h
  split at h
  · contradiction
  · exact ⟨‹_›, Option.bind_eq_some_iff.1 h⟩

theorem entryMeaning?_of_item {e : String × Value} {item : String} (h : item? e = some item) :
    entryMeaning? dialect (.string e.1, e.2) =
      some ((splitPair item).1, .ok (splitPair item).2) := by
  obtain ⟨clean, s, read, h⟩ := item?_eq_some h
  obtain ⟨key, text⟩ := toText_of_item clean h
  have name : ((Value.string e.1).string? dialect).toOption = some e.1 := rfl
  rw [entryMeaning?, name, read, key, ← text]
  rfl

theorem hasTag_of_item {e : String × Value} {item : String} (h : item? e = some item) :
    e.2.hasTag = false := by
  obtain ⟨_, s, read, h⟩ := item?_eq_some h
  cases value : e.2 with
  | null | bool | number | string => rfl
  | list | mapping | tagged =>
    rw [value] at read
    cases read
    all_goals cases h

theorem meaning_mapping (listed : entries.mapM item? = some items) :
    (scalars? dialect (.mapping (entries.map fun e => (.string e.1, e.2)))).map meaning =
      some ((ofList items).map .ok) := by
  have each : (entries.map fun e => (Value.string e.1, e.2)).mapM (entryMeaning? dialect) =
      some (items.map fun item => ((splitPair item).1, .ok (splitPair item).2)) := by
    rw [mapM_eq_some_iff, List.forall₂_map_left_iff, List.forall₂_map_right_iff]
    exact (mapM_eq_some_iff.1 listed).imp fun _ _ => entryMeaning?_of_item
  rw [scalars?_mapping, each, ofList, Dict.map_ofList, List.map_map]
  rfl

theorem texts_map_ok (d : Dict String) :
    ((d.map .ok).mapM fun _ (text : Except FieldError String) => text) = .ok d := by
  have each := Dict.mapM_map (f := fun _ (text : Except FieldError String) => text) (g := .ok)
    (i := id) (fun _ _ => rfl) d
  rw [each]
  exact congrArg Except.ok (Dict.ext (by simp))

theorem decode_mapping (listed : entries.mapM item? = some items) :
    decode dialect (.mapping (entries.map fun e => (.string e.1, e.2))) = .ok (ofList items) := by
  obtain ⟨d, read, same⟩ : ∃ d, scalars? dialect (.mapping (entries.map fun e =>
      (.string e.1, e.2))) = some d ∧ meaning d = (ofList items).map .ok :=
    Option.map_eq_some_iff.1 (meaning_mapping listed)
  unfold decode
  rw [read]
  dsimp only
  rw [texts_eq, same, texts_map_ok]

theorem decode_list (items : List String) :
    decode dialect (.list (items.map .string)) = .ok (ofList items) := by
  have scalars : scalars? dialect (.list (items.map .string)) = none := rfl
  unfold decode
  rw [scalars, Value.strings?_list]

theorem hasTag_mapping (h : List.Forall₂ (fun e item => item? e = some item) entries items) :
    (Value.mapping (entries.map fun e => (Value.string e.1, e.2))).hasTag = false := by
  unfold Value.hasTag
  induction h with
  | nil => rfl
  | cons head _ ih => simpa [Value.entriesHaveTag, Value.hasTag, hasTag_of_item head] using ih

theorem args?_mapping (listed : entries.mapM item? = some items) :
    BuildSection.args? (.mapping (entries.map fun e => (.string e.1, e.2))) =
      some (some (.ok (ofList items))) := by
  have clean := hasTag_mapping (mapM_eq_some_iff.1 listed)
  rw [BuildSection.args?_mapping, clean, if_neg Bool.false_ne_true, meaning_mapping listed]
  exact congrArg (some ∘ some) (texts_map_ok _)

theorem args?_list (items : List String) :
    BuildSection.args? (.list (items.map .string)) = some (some (.ok (ofList items))) := by
  have clean : (Value.list (items.map Value.string)).hasTag = false := by
    unfold Value.hasTag
    induction items with
    | nil => rfl
    | cons item items ih => simpa [Value.listHasTag, Value.hasTag] using ih
  have nested : nested? (.list (items.map .string)) = some (.list items) := by
    unfold nested?
    rw [clean, if_neg Bool.false_ne_true]
    dsimp only
    rw [Value.strings?_list]
    rfl
  unfold BuildSection.args?
  dsimp only
  rw [nested]
  rfl

end Pairs

namespace Value
variable {dialect : Dialect} {v w : Value}

/-- A table as a mapping and as the list of its items. -/
inductive TableSpelling : Value → Value → Prop
  | intro (entries : List (String × Value)) (items : List String)
      (listed : entries.mapM Pairs.item? = some items) :
      TableSpelling (.mapping (entries.map fun e => (.string e.1, e.2))) (.list (items.map .string))

/-- A build as its directory and as an object, and the arguments of an object in either spelling. -/
inductive BuildSpelling : Value → Value → Prop
  | directory (s : String) : BuildSpelling (.string s) (.mapping [(.string "context", .string s)])
  | args (before after : List (Value × Value)) {v w : Value} (h : TableSpelling v w) :
      BuildSpelling (.mapping (before ++ (.string "args", v) :: after))
        (.mapping (before ++ (.string "args", w) :: after))

/-- A command that is not empty, as its arguments and as one string. -/
inductive CommandSpelling : Value → Value → Prop
  | intro (args : List String) (h : joinWith ' ' args ≠ "") :
      CommandSpelling (.list (args.map .string)) (.string (joinWith ' ' args))

inductive ListSpelling : Value → Value → Prop
  | intro (s : String) : ListSpelling (.string s) (.list [.string s])

/-- Names as the keys of a mapping and as a list in ascending order. -/
inductive NetworksSpelling : Value → Value → Prop
  | intro (entries : List (String × Value)) (names : List String)
      (ascending : names.Pairwise (· < ·)) (keys : ∀ k, k ∈ names ↔ k ∈ entries.map (·.1)) :
      NetworksSpelling (.mapping (entries.map fun e => (.string e.1, e.2)))
        (.list (names.map .string))

/-- A check as a command and as an array for the shell, and arguments as one command. -/
inductive TestSpelling : Value → Value → Prop
  | shell (s : String) (h : s ≠ "") :
      TestSpelling (.string s) (.list [.string "CMD-SHELL", .string s])
  | exec (args : List String) (h : args ≠ []) :
      TestSpelling (.list (.string "CMD" :: args.map .string))
        (.list [.string "CMD-SHELL", .string (joinWith ' ' args)])

theorem TableSpelling.decode_eq (h : v.TableSpelling w) :
    Pairs.decode dialect v = Pairs.decode dialect w := by
  obtain ⟨entries, items, listed⟩ := h
  rw [Pairs.decode_mapping listed, Pairs.decode_list]

theorem TableSpelling.args?_eq (h : v.TableSpelling w) :
    BuildSection.args? v = BuildSection.args? w := by
  obtain ⟨entries, items, listed⟩ := h
  rw [Pairs.args?_mapping listed, Pairs.args?_list]

theorem BuildSpelling.decode_eq (h : v.BuildSpelling w) :
    Build.decode dialect v = Build.decode dialect w := by
  cases h with
  | directory s => cases dialect <;> rfl
  | args before after h =>
    have same (es : List (Value × Value)) : List.Forall₂ (Build.EntryAlike dialect) es es :=
      List.forall₂_same.2 fun _ _ => ⟨rfl, .inl rfl⟩
    refine Build.decode_mapping_congr (List.rel_append (same before) (.cons ?_ (same after)))
    exact ⟨rfl, .inr ⟨rfl, h.args?_eq⟩⟩

theorem CommandSpelling.decode_eq (h : v.CommandSpelling w) :
    Command.decode dialect v = Command.decode dialect w := by
  obtain ⟨args, nonempty⟩ := h
  have some : args ≠ [] := by
    rintro rfl
    exact nonempty rfl
  rw [Command.decode_list, Command.decode_string, Command.join_of_ne_nil some]
  simp [nonEmpty, nonempty]

theorem ListSpelling.decodeList_eq (h : v.ListSpelling w) :
    Command.decodeList dialect v = Command.decodeList dialect w := by
  obtain ⟨s⟩ := h
  rfl

theorem NetworksSpelling.decodeNetworks_eq (h : v.NetworksSpelling w) :
    Command.decodeNetworks dialect v = Command.decodeNetworks dialect w := by
  obtain ⟨entries, names, ascending, keys⟩ := h
  rw [Command.decodeNetworks_list, Command.decodeNetworks, stringEntries?_mapping]
  refine congrArg Except.ok (Dict.eq_keys_of_ascending ascending fun k => ?_).symm
  rw [keys, Dict.mem_keys_ofList_iff]

theorem TestSpelling.decodeTest_eq (h : v.TestSpelling w) :
    Command.decodeTest dialect v = Command.decodeTest dialect w := by
  have shell (s : String) : Command.decodeTest dialect (.list [.string "CMD-SHELL", .string s]) =
      .ok (some s) := by
    rw [← Command.ofTest_toTest s]
    exact Command.decodeTest_list (Command.toTest s)
  cases h with
  | shell s nonempty =>
    rw [shell, Command.decodeTest_string]
    simp [nonEmpty, nonempty]
  | exec args some =>
    have exec : Command.ofTest ("CMD" :: args) = Command.join args := by simp [Command.ofTest]
    rw [shell, ← Command.join_of_ne_nil some, ← exec]
    exact Command.decodeTest_list ("CMD" :: args)

/-- The value itself, or its other spelling in either direction. -/
inductive Respelled (R : Value → Value → Prop) : Value → Value → Prop
  | same (v : Value) : Respelled R v v
  | forth {v w : Value} (h : R v w) : Respelled R v w
  | back {v w : Value} (h : R w v) : Respelled R v w

theorem mapM_respelled {R : Value → Value → Prop} {β : Type} {f : Value → Except FieldError β}
    {v w : Option Value} (h : Option.Rel (Respelled R) v w) (same : ∀ {v w}, R v w → f v = f w) :
    v.mapM f = w.mapM f := by
  refine option_mapM_congr h ?_
  rintro _ _ (_ | h | h)
  · rfl
  · exact same h
  · exact (same h).symm

end Value
end Workload
