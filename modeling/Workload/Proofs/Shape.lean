import Workload.Codec.Build
import Workload.Codec.Command
import Workload.Proofs.Scalar

/-! Generic values that are lists of strings or tables of strings, and what the fields that are
decoded from such values make of them. -/
namespace Workload
variable {dialect : Dialect}

namespace Value

theorem strings?_list (xs : List String) :
    (list (xs.map string)).strings? dialect = .ok xs := by
  have item (s : String) : (string s).string? dialect = .ok s := rfl
  exact mapM_map_self item xs

theorem stringEntries?_mapping (es : List (String × Value)) :
    (mapping (es.map fun e => (string e.1, e.2))).stringEntries? dialect = some es := by
  have read := mapM_map_pure (m := Option)
    (f := fun e : Value × Value => (e.1.string? dialect).toOption.map (·, e.2))
    (g := fun e => (string e.1, e.2)) (h := id) (fun _ => rfl) es
  rwa [List.map_id] at read

theorem ofItems_eq_map (items : List Json) : ofItems items = items.map ofJson := by
  induction items with
  | nil => rfl
  | cons item items ih => rw [ofItems, ih, List.map_cons]

theorem ofMembers_eq_map (members : List (String × Json)) :
    ofMembers members = members.map fun m => (m.1, ofJson m.2) := by
  induction members with
  | nil => rfl
  | cons m members ih => rw [ofMembers, ih, List.map_cons]

theorem ofJson_object (members : List (String × Json)) :
    ofJson (.object members) =
      .mapping ((Dict.ofList (members.map fun m => (m.1, ofJson m.2))).entries.map
        fun e => (.string e.1, e.2)) := by
  rw [ofJson, ofMembers_eq_map]

end Value

namespace Command

theorem decodeList_list (xs : List String) :
    decodeList dialect (.list (xs.map .string)) = .ok xs := by
  unfold decodeList shape
  rw [Value.strings?_list]
  rfl

theorem decodeNetworks_list (xs : List String) :
    decodeNetworks dialect (.list (xs.map .string)) = .ok xs := by
  unfold decodeNetworks
  rw [Value.strings?_list]
  rfl

theorem decode_list (args : List String) :
    decode dialect (.list (args.map .string)) = .ok (join args) := by
  unfold decode shape
  rw [Value.strings?_list]
  rfl

theorem decode_string (command : String) :
    decode dialect (.string command) = .ok (nonEmpty command) := rfl

theorem decodeTest_string (command : String) :
    decodeTest dialect (.string command) = .ok (nonEmpty command) := rfl

theorem decodeTest_list (test : List String) :
    decodeTest dialect (.list (test.map .string)) = .ok (ofTest test) := by
  unfold decodeTest shape
  rw [Value.strings?_list]
  rfl

end Command

namespace Pairs

def stringEntries (d : Dict String) : List (Value × Value) :=
  d.entries.map fun (k, s) => (.string k, .string s)

theorem scalars?_stringEntries (d : Dict String) :
    scalars? dialect (.mapping (stringEntries d)) = some (d.map .text) := by
  have split : stringEntries d =
      (d.entries.map fun e => (e.1, Value.string e.2)).map fun e => (.string e.1, e.2) := by
    rw [List.map_map]
    rfl
  have scalars := mapM_map_pure (m := Option)
    (f := fun e : String × Value => (Scalar.ofValue? e.2).map (e.1, ·))
    (g := fun e => (e.1, .string e.2)) (h := fun e => (e.1, .text e.2)) (fun _ => rfl) d.entries
  unfold scalars?
  rw [split, Value.stringEntries?_mapping]
  simp only [bind, Option.bind]
  rw [scalars]
  exact congrArg some (Dict.ofList_entries (d.map Scalar.text))

theorem decode_stringEntries (d : Dict String) :
    decode dialect (.mapping (stringEntries d)) = .ok d := by
  unfold decode
  rw [scalars?_stringEntries]
  exact texts_map_text d

theorem hasTag_stringEntries (d : Dict String) :
    (Value.mapping (stringEntries d)).hasTag = false := by
  unfold stringEntries Value.hasTag
  induction d.entries with
  | nil => rfl
  | cons e es ih => simpa [Value.entriesHaveTag, Value.hasTag] using ih

theorem nested?_stringEntries (d : Dict String) :
    nested? (.mapping (stringEntries d)) = some (ofDict d) := by
  unfold nested?
  rw [hasTag_stringEntries, if_neg Bool.false_ne_true]
  dsimp only
  rw [scalars?_stringEntries]
  rfl

theorem toValue_ofDict (d : Dict String) : (ofDict d).toValue = .mapping (stringEntries d) := by
  simp [ofDict, toValue, stringEntries, Scalar.toValue]

theorem ofJson_toJson (p : Pairs) : Value.ofJson p.toJson = p.toValue := by
  cases p with
  | mapping entries =>
    have scalar (s : Scalar) : Value.ofJson s.toJson = s.toValue := by cases s <;> rfl
    have members : (entries.entries.map fun e => (e.1, e.2.toJson)).map
        (fun m => (m.1, Value.ofJson m.2)) = (entries.map Scalar.toValue).entries := by
      simp [scalar]
    unfold toJson toValue
    rw [Value.ofJson_object, members, Dict.ofList_entries, Dict.entries_map, List.map_map]
    rfl
  | list items =>
    unfold toJson toValue Json.strings
    rw [Value.ofJson, Value.ofItems_eq_map, List.map_map]
    rfl

/-- A table of scalars as the texts they have, or the reasons why they have none. -/
def meaning (d : Dict Scalar) : Dict (Except FieldError String) := d.map Scalar.toText

theorem texts_eq (d : Dict Scalar) : texts d = (meaning d).mapM fun _ text => text :=
  Dict.mapM_comp (fun _ text => text) Scalar.toText d

theorem texts_congr {d e : Dict Scalar} (h : meaning d = meaning e) : texts d = texts e := by
  rw [texts_eq, texts_eq, h]

def entryMeaning? (dialect : Dialect) (e : Value × Value) :
    Option (String × Except FieldError String) :=
  (e.1.string? dialect).toOption.bind fun key =>
    (Scalar.ofValue? e.2).map fun value => (key, value.toText)

theorem scalars?_mapping (es : List (Value × Value)) :
    (scalars? dialect (.mapping es)).map meaning =
      (es.mapM (entryMeaning? dialect)).map Dict.ofList := by
  let named (e : Value × Value) := (e.1.string? dialect).toOption.map (·, e.2)
  let valued (e : String × Value) := (Scalar.ofValue? e.2).map (e.1, ·)
  have passes : scalars? dialect (.mapping es) =
      ((es.mapM named).bind (·.mapM valued)).map Dict.ofList := by
    change ((es.mapM named).bind fun es => (es.mapM valued).bind fun es => some (Dict.ofList es)) = _
    cases es.mapM named with
    | none => rfl
    | some es =>
      rw [Option.bind_some, Option.bind_some]
      cases es.mapM valued <;> rfl
  have both (e : Value × Value) :
      ((named e).bind valued).map (fun e => (e.1, e.2.toText)) = entryMeaning? dialect e := by
    unfold entryMeaning? named valued
    cases (e.1.string? dialect).toOption with
    | none => rfl
    | some key => simp [Option.map_map, Function.comp_def]
  have table (es : List (String × Scalar)) : meaning (.ofList es) =
      .ofList (es.map fun e => (e.1, e.2.toText)) := Dict.map_ofList _ es
  rw [passes, option_mapM_bind, ← funext both, ← option_mapM_then, Option.map_map, Option.map_map]
  exact congrArg (Option.map · _) (funext table)

/-- A table is decoded from what its mapping means, or else from its strings. -/
theorem decode_congr {v w : Value}
    (tables : (scalars? dialect v).map meaning = (scalars? dialect w).map meaning)
    (lists : v.strings? dialect = w.strings? dialect) : decode dialect v = decode dialect w := by
  unfold decode
  rw [lists]
  generalize scalars? dialect v = d, scalars? dialect w = e at tables
  cases d <;> cases e
  · rfl
  · cases tables
  · cases tables
  · exact texts_congr (Option.some.inj tables)

end Pairs

end Workload
