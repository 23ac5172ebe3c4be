import Workload.Json.Record
import Workload.Proofs.Dict
import Workload.Proofs.Json.Text

/-! Written records read back, each field by the law of its kind. -/
namespace Workload.Json
variable {α β : Type} {read : Json → Option α} {write : α → Json}

/-- The reader undoes the writer at this value. -/
structure RestoresAt (read : Json → Option α) (write : α → Json) (a : α) : Prop where
  read_write : read (write a) = some a
  /-- An optional field that is null is read as one that is absent. -/
  ne_null : write a ≠ null

/-- The reader undoes the writer. -/
structure Restores (read : Json → Option α) (write : α → Json) : Prop where
  read_write : ∀ a, read (write a) = some a
  ne_null : ∀ a, write a ≠ null
  plain : ∀ a, Plain (write a)

/-! Values that stand for themselves. -/

attribute [simp] Plain.bool Plain.string

@[simp] theorem plain_natural (n : Nat) : Plain (natural n) := .natural _

@[simp] theorem string?_string (s : String) : string? (string s) = some s := rfl

@[simp] theorem bool?_bool (b : Bool) : bool? (bool b) = some b := rfl

theorem naturalBelow?_natural {bound n : Nat} (small : n < bound) (fits : bound ≤ UInt64.size) :
    naturalBelow? bound (natural n) = some n := by
  have same : (UInt64.ofNat n).toNat = n := UInt64.toNat_ofNat_of_lt (Nat.lt_of_lt_of_le small fits)
  simp only [natural, naturalBelow?, same, small, ↓reduceIte]

@[simp] theorem uint16?_natural (n : UInt16) : uint16? (natural n.toNat) = some n := by
  rw [uint16?, naturalBelow?_natural n.toNat_lt (by decide), Option.map_some, UInt16.ofNat_toNat]

@[simp] theorem uint32?_natural (n : UInt32) : uint32? (natural n.toNat) = some n := by
  rw [uint32?, naturalBelow?_natural n.toNat_lt (by decide), Option.map_some, UInt32.ofNat_toNat]

@[simp] theorem uint64?_natural (n : UInt64) : uint64? (natural n.toNat) = some n := by
  rw [uint64?, naturalBelow?_natural n.toNat_lt (by decide), Option.map_some, UInt64.ofNat_toNat]

namespace Restores

@[simp] theorem string : Restores string? .string := ⟨string?_string, nofun, .string⟩

@[simp] theorem uint16 : Restores uint16? (natural ·.toNat) :=
  ⟨uint16?_natural, nofun, fun _ => .natural _⟩

@[simp] theorem uint32 : Restores uint32? (natural ·.toNat) :=
  ⟨uint32?_natural, nofun, fun _ => .natural _⟩

@[simp] theorem uint64 : Restores uint64? (natural ·.toNat) :=
  ⟨uint64?_natural, nofun, fun _ => .natural _⟩

@[simp] theorem bool : Restores bool? .bool := ⟨bool?_bool, nofun, .bool⟩

theorem restoresAt (h : Restores read write) (a : α) : RestoresAt read write a :=
  ⟨h.read_write a, h.ne_null a⟩

theorem list (h : Restores read write) (xs : List α) :
    list? read (.array (xs.map write)) = some xs :=
  mapM_map_eq_some fun a _ => h.read_write a

theorem read_text (h : Restores read write) (indent : Option Nat) (a : α) :
    (parse? (String.ofList (Json.write indent 0 (write a)))).bind read = some a := by
  rw [parse?_write indent (h.plain a), Option.bind_some, h.read_write]

end Restores

/-! A record of members, and what each of them gives where its field is read. -/

@[simp] theorem fst_member (name : String) (v : Json) : (member name v).1 = name := rfl

@[simp] theorem fst_optionalMember (name : String) (value : Option α) :
    (optionalMember name write value).1 = name := rfl

@[simp] theorem fst_listMember (name : String) (xs : List α) :
    (listMember name write xs).1 = name := rfl

@[simp] theorem fst_dictMember (name : String) (d : Dict α) :
    (dictMember name write d).1 = name := rfl

@[simp] theorem fst_flagMember (name : String) (value : Bool) :
    (flagMember name value).1 = name := rfl

def present (members : List (String × Option Json)) : Fields :=
  members.filterMap fun (k, v) => v.map (k, ·)

theorem mem_present {members : List (String × Option Json)} {k : String} {v : Json} :
    (k, v) ∈ present members ↔ (k, some v) ∈ members := by
  simp [present, List.mem_filterMap]

theorem keys_present_sublist (members : List (String × Option Json)) :
    ((present members).map (·.1)).Sublist (members.map (·.1)) := by
  induction members with
  | nil => exact .slnil
  | cons m members ih =>
    obtain ⟨k, v⟩ := m
    cases v with
    | none => exact ih.cons _
    | some v => exact ih.cons_cons _

theorem lookup_present {members : List (String × Option Json)} (nodup : (members.map (·.1)).Nodup)
    {m : String × Option Json} (mem : m ∈ members) : (present members).lookup m.1 = m.2 := by
  have here : members.lookup m.1 = some m.2 := (Dict.lookup_eq_some_iff nodup).2 mem
  apply Option.ext
  intro v
  rw [Dict.lookup_eq_some_iff (nodup.sublist (keys_present_sublist members)), mem_present,
    ← Dict.lookup_eq_some_iff nodup, here, Option.some_inj]

theorem record?_compactObject {members : List (String × Option Json)}
    (nodup : (members.map (·.1)).Nodup) :
    (compactObject members).record? (members.map (·.1)) = some (present members) := by
  have sublist := keys_present_sublist members
  have known : (present members).filter ((members.map (·.1)).contains ·.1) = present members := by
    rw [List.filter_eq_self]
    intro m mem
    exact List.contains_iff_mem.2 (sublist.subset (List.mem_map_of_mem mem))
  change (if (((present members).filter _).map (·.1)).Nodup then
    some ((present members).filter _) else none) = _
  rw [known, if_pos (nodup.sublist sublist)]

/-- A record is read from the object of its members when that is so from any fields that hold what
the members give. -/
theorem bind_record?_compactObject {members : List (String × Option Json)} {names : List String}
    {f : Fields → Option α} {a : α} (keys : members.map (·.1) = names) (nodup : names.Nodup)
    (h : ∀ fs : Fields, (∀ m ∈ members, fs.lookup m.1 = m.2) → f fs = some a) :
    ((compactObject members).record? names).bind f = some a := by
  subst keys
  rw [record?_compactObject nodup, Option.bind_some, h _ fun _ => lookup_present nodup]

def PlainMember (m : String × Option Json) : Prop := ∀ v ∈ m.2, Plain v

theorem plain_compactObject {members : List (String × Option Json)}
    (h : ∀ m ∈ members, PlainMember m) : Plain (compactObject members) := by
  refine @Plain.object (present members) fun m mem => ?_
  exact h (m.1, some m.2) (mem_present.1 mem) m.2 rfl

namespace Fields
variable (fs : Fields) (name : String)

theorem required_eq (value : Json → Option α) :
    fs.required name value = (fs.lookup name).elim none value := by
  rw [required]
  cases fs.lookup name <;> rfl

theorem withDefault_eq (value : Json → Option α) (default : α) :
    fs.withDefault name value default = (fs.lookup name).elim (some default) value := by
  rw [withDefault]
  cases fs.lookup name <;> rfl

theorem optional_eq (value : Json → Option α) :
    fs.optional name value = (fs.lookup name).elim (some none) (nullable? value) :=
  fs.withDefault_eq name _ _

theorem listOf_eq (item : Json → Option α) :
    fs.listOf name item = (fs.lookup name).elim (some []) (list? item) :=
  fs.withDefault_eq name _ _

theorem dictOf_eq (value : Json → Option α) :
    fs.dictOf name value = (fs.lookup name).elim (some ∅) (dict? value) :=
  fs.withDefault_eq name _ _

theorem flag_eq : fs.flag name = (fs.lookup name).elim (some false) bool? :=
  fs.withDefault_eq name _ _

end Fields

@[simp] theorem elim_member (v : Json) (absent : β) (present : Json → β) {name : String} :
    (member name v).2.elim absent present = present v := rfl

@[simp] theorem elim_flagMember (name : String) (value : Bool) :
    (flagMember name value).2.elim (some false) bool? = some value := by
  cases value <;> rfl

namespace RestoresAt

theorem optionalMember {value : Option α} (h : ∀ a ∈ value, RestoresAt read write a)
    (name : String) :
    (optionalMember name write value).2.elim (some none) (nullable? read) = some value := by
  cases value with
  | none => rfl
  | some a =>
    obtain ⟨read_write, ne_null⟩ := h a rfl
    change nullable? read (write a) = some (some a)
    rw [nullable?.eq_2 read (write a) ne_null, read_write, Option.map_some]

theorem list {xs : List α} (h : ∀ a ∈ xs, RestoresAt read write a) :
    list? read (.array (xs.map write)) = some xs :=
  mapM_map_eq_some fun a ha => (h a ha).read_write

theorem listMember {xs : List α} (h : ∀ a ∈ xs, RestoresAt read write a) (name : String) :
    (listMember name write xs).2.elim (some []) (list? read) = some xs := by
  cases xs with
  | nil => rfl
  | cons x xs => exact list h

theorem dictMember {d : Dict α} (h : ∀ e ∈ d.entries, RestoresAt read write e.2) (name : String) :
    (dictMember name write d).2.elim (some ∅) (dict? read) = some d := by
  rw [Json.dictMember]
  split
  · rename_i empty
    exact congrArg some (Dict.ext (List.isEmpty_iff.1 empty).symm)
  · have entry : ∀ e ∈ d.entries, (read (write e.2)).map (e.1, ·) = some e := by
      intro e he
      rw [(h e he).read_write, Option.map_some]
    change dict? read (.object _) = some d
    rw [dict?, mapM_map_eq_some entry, Option.map_some, Dict.ofList_entries]

end RestoresAt

@[simp] theorem elim_optionalMember (h : Restores read write) (name : String) (value : Option α) :
    (optionalMember name write value).2.elim (some none) (nullable? read) = some value :=
  RestoresAt.optionalMember (fun a _ => h.restoresAt a) name

@[simp] theorem elim_listMember (h : Restores read write) (name : String) (xs : List α) :
    (listMember name write xs).2.elim (some []) (list? read) = some xs :=
  RestoresAt.listMember (fun a _ => h.restoresAt a) name

@[simp] theorem elim_dictMember (h : Restores read write) (name : String) (d : Dict α) :
    (dictMember name write d).2.elim (some ∅) (dict? read) = some d :=
  RestoresAt.dictMember (fun e _ => h.restoresAt e.2) name

@[simp] theorem plainMember_member (name : String) {v : Json} (h : Plain v) :
    PlainMember (member name v) := by
  rintro w ⟨⟩
  exact h

@[simp] theorem plainMember_flagMember (name : String) (value : Bool) :
    PlainMember (flagMember name value) := by
  cases value with
  | false => nofun
  | true => exact plainMember_member name (.bool true)

@[simp] theorem plainMember_optionalMember (h : ∀ a, Plain (write a)) (name : String)
    (value : Option α) : PlainMember (optionalMember name write value) := by
  intro v present
  obtain ⟨a, -, rfl⟩ := Option.map_eq_some_iff.1 present
  exact h a

@[simp] theorem plain_array_map (h : ∀ a, Plain (write a)) (xs : List α) :
    Plain (.array (xs.map write)) :=
  .array fun v mem => by
    obtain ⟨a, -, rfl⟩ := List.mem_map.1 mem
    exact h a

@[simp] theorem plainMember_listMember (h : ∀ a, Plain (write a)) (name : String) (xs : List α) :
    PlainMember (listMember name write xs) := by
  unfold PlainMember listMember
  split
  · nofun
  · rintro v ⟨⟩
    exact plain_array_map h xs

@[simp] theorem plainMember_dictMember (h : ∀ a, Plain (write a)) (name : String) (d : Dict α) :
    PlainMember (dictMember name write d) := by
  unfold PlainMember dictMember
  split
  · nofun
  · rintro v ⟨⟩
    refine .object fun m mem => ?_
    obtain ⟨e, -, rfl⟩ := List.mem_map.1 mem
    exact h e.2

end Workload.Json
