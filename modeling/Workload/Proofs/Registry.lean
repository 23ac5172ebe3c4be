import Workload.Format.Registry
import Workload.Proofs.Dict
import Workload.Proofs.Order

/-! Registries after any series of registrations. The two sides of a registry are filled alike and
apart from each other: each is the table of the adapters that were registered on it, under their own
names, where the last of a name counts. What a side answers follows from this table. -/
namespace Workload

section Named
variable {α : Type} {name : α → String} {n : String} {a : α} {as : List α}

/-- `a` is called `n`, and what comes after it in the list is not. -/
def LastNamed (name : α → String) (n : String) (a : α) (as : List α) : Prop :=
  name a = n ∧ ∃ before after, as = before ++ a :: after ∧ ∀ b ∈ after, name b ≠ n

/-- The elements of a list under their names. -/
def byName (name : α → String) (as : List α) : Dict α :=
  .ofList (as.map fun a => (name a, a))

theorem find?_byName_eq_some_iff : (byName name as).find? n = some a ↔ LastNamed name n a as := by
  rw [byName, Dict.find?_ofList_map_eq_some_iff]
  constructor
  · rintro ⟨before, b, after, split, entry, later⟩
    obtain ⟨rfl, rfl⟩ := Prod.mk.inj entry
    exact ⟨rfl, before, after, split, later⟩
  · rintro ⟨rfl, before, after, split, later⟩
    exact ⟨before, a, after, split, rfl, later⟩

theorem mem_keys_byName_iff : n ∈ (byName name as).keys ↔ ∃ a ∈ as, name a = n := by
  rw [byName, Dict.mem_keys_ofList_iff, List.map_map, List.mem_map]
  rfl

theorem find?_byName_eq_none_iff : (byName name as).find? n = none ↔ ∀ a ∈ as, name a ≠ n := by
  rw [← Option.not_isSome_iff_eq_none, ← Dict.mem_keys_iff, mem_keys_byName_iff]
  simp

theorem name_of_find?_byName (h : (byName name as).find? n = some a) : name a = n :=
  (find?_byName_eq_some_iff.1 h).1

theorem map_name_byName :
    ((byName name as).entries.map (·.2)).map name = (byName name as).keys := by
  rw [List.map_map]
  refine List.map_congr_left ?_
  intro e mem
  show name e.2 = e.1
  exact name_of_find?_byName (Dict.find?_eq_some_iff.2 mem)

end Named

/-- What one side of a registry answers when the adapters `as` were registered on it, in this
order. -/
structure Answers {α : Type} (direction : Direction) (name description : α → String) (as : List α)
    (lookup : String → Except ConversionError α) (formats : List String)
    (lines : List FormatInfo) : Prop where
  lookup_eq_ok_iff : ∀ n a, lookup n = .ok a ↔ LastNamed name n a as
  lookup_eq_error_iff : ∀ n e, lookup n = .error e ↔
    (∀ a ∈ as, name a ≠ n) ∧ e = .unknownFormat direction n formats
  help : ∀ n e, lookup n = .error e →
    e.help = some ("Available " ++ direction.name ++ " formats: " ++ ", ".intercalate formats)
  ascending : formats.Pairwise (· < ·)
  mem_formats_iff : ∀ n, n ∈ formats ↔ ∃ a ∈ as, name a = n
  described : List.Forall₂
    (fun n line => ∃ a, lookup n = .ok a ∧ line = ⟨direction, n, description a⟩) formats lines
  /-- Names that can be looked up, in whatever order they come, are sorted into the listing. -/
  sorted_names : ∀ names : List String, names.Nodup →
    (∀ n, n ∈ names ↔ ∃ a, lookup n = .ok a) → sortWith compare names = formats
  /-- Adapters that can be looked up, in whatever order they come, are sorted into their lines by
  the names that they have themselves. -/
  sorted_lines : ∀ held : List α, held.Nodup → (∀ a, a ∈ held ↔ ∃ n, lookup n = .ok a) →
    sortWith (compareOn FormatInfo.format)
      (held.map fun a => ⟨direction, name a, description a⟩) = lines

section Sides
variable {α : Type} {name : α → String} {as : List α}

theorem sortWith_eq_keys {d : Dict α} {names : List String} (nodup : names.Nodup)
    (same : ∀ n, n ∈ names ↔ ∃ a, d.find? n = some a) : sortWith compare names = d.keys := by
  have perm : names.Perm d.keys := by
    rw [List.perm_ext_iff_of_nodup nodup d.nodup_keys]
    intro n
    rw [same, Dict.mem_keys_iff, Option.isSome_iff_exists]
  rw [sortWith_eq_of_perm perm]
  refine sortWith_of_pairwise (List.pairwise_map.2 (d.ascending.imp ?_))
  intro a b hlt
  exact isLE_compare_string.2 (Std.le_of_lt hlt)

theorem sortWith_map_eq_entries {held : List α} (nodup : held.Nodup)
    (same : ∀ a, a ∈ held ↔ ∃ n, (byName name as).find? n = some a) {line : α → FormatInfo}
    (format : ∀ a, (line a).format = name a) :
    sortWith (compareOn FormatInfo.format) (held.map line) =
      (byName name as).entries.map fun e => line e.2 := by
  have distinct : ((byName name as).entries.map (·.2)).Nodup :=
    List.Nodup.of_map name (map_name_byName ▸ (byName name as).nodup_keys)
  have perm : held.Perm ((byName name as).entries.map (·.2)) := by
    rw [List.perm_ext_iff_of_nodup nodup distinct]
    intro a
    simp only [same, Dict.find?_eq_some_iff, List.mem_map, Prod.exists, exists_eq_right]
  -- lines with one name are lines of one adapter
  have ties : ∀ l ∈ held.map line, ∀ m ∈ held.map line,
      compareOn FormatInfo.format l m = .eq → l = m := by
    intro l hl m hm tie
    obtain ⟨a, ha, rfl⟩ := List.mem_map.1 hl
    obtain ⟨b, hb, rfl⟩ := List.mem_map.1 hm
    obtain ⟨n, found⟩ := (same a).1 ha
    obtain ⟨k, found'⟩ := (same b).1 hb
    have names : name a = name b := by
      rw [← format a, ← format b]
      exact Std.compare_eq_iff_eq.1 tie
    rw [name_of_find?_byName found, name_of_find?_byName found'] at names
    rw [names, found'] at found
    rw [Option.some.inj found]
  rw [sortWith_congr (perm.map line) ties, List.map_map]
  refine sortWith_of_pairwise (List.pairwise_map.2 ?_)
  refine (List.Pairwise.and_mem.1 (byName name as).ascending).imp ?_
  rintro e f ⟨he, hf, hlt⟩
  rw [compareOn, isLE_compare_string, Function.comp_apply, Function.comp_apply, format, format,
    name_of_find?_byName (Dict.find?_eq_some_iff.2 he),
    name_of_find?_byName (Dict.find?_eq_some_iff.2 hf)]
  exact Std.le_of_lt hlt

theorem answers_of_eq_byName {direction : Direction} {description : α → String} {table : Dict α}
    {lookup : String → Except ConversionError α} (filled : table = byName name as)
    (lookup_eq : ∀ n, lookup n =
      (table.find? n).elim (.error (.unknownFormat direction n table.keys)) .ok) :
    Answers direction name description as lookup table.keys
      (table.entries.map fun e => ⟨direction, name e.2, description e.2⟩) := by
  subst filled
  have found (n : String) (a : α) : lookup n = .ok a ↔ (byName name as).find? n = some a := by
    rw [lookup_eq]
    cases (byName name as).find? n <;> simp
  have missing (n : String) (e : ConversionError) : lookup n = .error e ↔
      (byName name as).find? n = none ∧
        e = .unknownFormat direction n (byName name as).keys := by
    rw [lookup_eq]
    cases (byName name as).find? n <;> simp [eq_comm]
  constructor
  case lookup_eq_ok_iff =>
    intro n a
    rw [found, find?_byName_eq_some_iff]
  case lookup_eq_error_iff =>
    intro n e
    rw [missing, find?_byName_eq_none_iff]
  case help =>
    intro n e failed
    rw [((missing n e).1 failed).2]
    rfl
  case ascending => exact List.pairwise_map.2 (byName name as).ascending
  case mem_formats_iff => exact fun n => mem_keys_byName_iff
  case described =>
    rw [Dict.keys, List.forall₂_map_left_iff, List.forall₂_map_right_iff, List.forall₂_same]
    intro e mem
    have entry := Dict.find?_eq_some_iff.2 mem
    exact ⟨e.2, (found _ _).2 entry, by rw [name_of_find?_byName entry]⟩
  case sorted_names =>
    intro names nodup same
    exact sortWith_eq_keys nodup (by simpa only [found] using same)
  case sorted_lines =>
    intro held nodup same
    exact sortWith_map_eq_entries nodup (by simpa only [found] using same) fun _ => rfl

end Sides

/-! Runs of registrations. -/

inductive Registration where
  | ingester (i : Ingester)
  | emitter (e : Emitter)

def Registration.ingester? : Registration → Option Ingester
  | .ingester i => some i
  | .emitter _ => none

def Registration.emitter? : Registration → Option Emitter
  | .ingester _ => none
  | .emitter e => some e

def Registry.add (r : Registry) : Registration → Registry
  | .ingester i => r.addIngester i
  | .emitter e => r.addEmitter e

def RegistryBuilder.add (b : RegistryBuilder) : Registration → RegistryBuilder
  | .ingester i => b.withIngester i
  | .emitter e => b.withEmitter e

/-- A registry that a builder makes, and that takes more adapters afterwards. -/
def Registry.filled (built direct : List Registration) : Registry :=
  direct.foldl Registry.add (built.foldl RegistryBuilder.add {}).build

theorem RegistryBuilder.build_foldl_add (b : RegistryBuilder) (rs : List Registration) :
    (rs.foldl add b).build = rs.foldl Registry.add b.build := by
  induction rs generalizing b with
  | nil => rfl
  | cons s rs ih =>
    have step : (b.add s).build = b.build.add s := by cases s <;> rfl
    rw [List.foldl_cons, ih, step, List.foldl_cons]

namespace Registry

theorem filled_eq_foldl (built direct : List Registration) :
    filled built direct = (built ++ direct).foldl add {} := by
  rw [filled, RegistryBuilder.build_foldl_add, List.foldl_append]
  rfl

/-- A part of registries that takes its own adapters by their names, and nothing else. -/
structure Side {α : Type} (table : Registry → Dict α) (own : Registration → Option α)
    (name : α → String) : Prop where
  table_empty : table {} = ∅
  table_add : ∀ r s, table (r.add s) = match own s with
    | some a => (table r).insert (name a) a
    | none => table r

theorem ingesterSide : Side ingesters Registration.ingester? Ingester.format where
  table_empty := rfl
  table_add _ s := by cases s <;> rfl

theorem emitterSide : Side emitters Registration.emitter? Emitter.format where
  table_empty := rfl
  table_add _ s := by cases s <;> rfl

section Side
variable {α : Type} {table : Registry → Dict α} {own : Registration → Option α} {name : α → String}

theorem Side.table_foldl_add (side : Side table own name) (r : Registry)
    (rs : List Registration) :
    table (rs.foldl add r) =
      (rs.filterMap own).foldl (fun d a => d.insert (name a) a) (table r) := by
  induction rs generalizing r with
  | nil => rfl
  | cons s rs ih =>
    rw [List.foldl_cons, ih, side.table_add, List.filterMap_cons]
    cases own s <;> rfl

theorem Side.table_filled (side : Side table own name) (built direct : List Registration) :
    table (filled built direct) = byName name ((built ++ direct).filterMap own) := by
  rw [filled_eq_foldl, side.table_foldl_add, side.table_empty, byName, Dict.ofList, List.foldl_map]
  rfl

theorem Side.table_filled_own (side : Side table own name) {only : α → Registration}
    (own_only : ∀ a, own (only a) = some a) (built direct : List Registration) :
    table (filled built direct) =
      table (filled [] (((built ++ direct).filterMap own).map only)) := by
  have same : own ∘ only = some := funext own_only
  rw [side.table_filled, side.table_filled, List.nil_append, List.filterMap_map, same,
    List.filterMap_some]

end Side

theorem ingester_eq (r : Registry) (n : String) :
    r.ingester n =
      (r.ingesters.find? n).elim (.error (.unknownFormat .input n r.ingesters.keys)) .ok := by
  unfold ingester inputFormats
  cases r.ingesters.find? n <;> rfl

theorem emitter_eq (r : Registry) (n : String) :
    r.emitter n =
      (r.emitters.find? n).elim (.error (.unknownFormat .output n r.emitters.keys)) .ok := by
  unfold emitter outputFormats
  cases r.emitters.find? n <;> rfl

theorem ingester_congr {r s : Registry} (h : r.ingesters = s.ingesters) :
    r.ingester = s.ingester := by
  funext n
  rw [ingester_eq, ingester_eq, h]

theorem emitter_congr {r s : Registry} (h : r.emitters = s.emitters) : r.emitter = s.emitter := by
  funext n
  rw [emitter_eq, emitter_eq, h]

/-- After any series of registrations, through a builder and directly, each side answers by the
adapters that were registered on it, and the listing has the lines of the inbound side and then
those of the outbound side. A side answers as if nothing had been registered on the other. -/
theorem answers_filled (built direct : List Registration) :
    let registered := built ++ direct
    let inbound := registered.filterMap Registration.ingester?
    let outbound := registered.filterMap Registration.emitter?
    let r := filled built direct
    (∃ above below, r.info = above ++ below ∧
      Answers .input Ingester.format Ingester.description inbound r.ingester r.inputFormats above ∧
      Answers .output Emitter.format Emitter.description outbound r.emitter r.outputFormats
        below) ∧
    r.ingester = (filled [] (inbound.map .ingester)).ingester ∧
    r.emitter = (filled [] (outbound.map .emitter)).emitter := by
  intro registered inbound outbound r
  have ingesters : r.ingesters = byName Ingester.format inbound :=
    ingesterSide.table_filled built direct
  have emitters : r.emitters = byName Emitter.format outbound :=
    emitterSide.table_filled built direct
  refine ⟨⟨_, _, rfl, ?_, ?_⟩, ?_, ?_⟩
  · exact answers_of_eq_byName ingesters r.ingester_eq
  · exact answers_of_eq_byName emitters r.emitter_eq
  · exact ingester_congr (ingesterSide.table_filled_own (fun _ => rfl) built direct)
  · exact emitter_congr (emitterSide.table_filled_own (fun _ => rfl) built direct)

example :
    (filled [.ingester Ecs.ingester, .emitter Ecs.emitter]
      [.ingester Compose.ingester, .ingester { Ecs.ingester with description := "Tasks" }]).info =
      [⟨.input, "compose", "Docker Compose file (YAML)"⟩, ⟨.input, "ecs", "Tasks"⟩,
        ⟨.output, "ecs", "Amazon ECS task definition (JSON)"⟩] := by
  decide

end Registry
end Workload
