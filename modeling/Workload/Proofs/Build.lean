import Workload.Proofs.Shape

/-! Build instructions read back from the object that is written for them. -/
namespace Workload
variable {dialect : Dialect}

namespace BuildSection

def fields (s : BuildSection) : List (String × Value) :=
  List.filterMap id [
    s.context.map fun c => ("context", .string c),
    s.dockerfile.map fun d => ("dockerfile", .string d),
    s.args.map fun p => ("args", p.toValue)]

theorem toValue_eq (s : BuildSection) :
    s.toValue = .mapping (s.fields.map fun e => (.string e.1, e.2)) := by
  obtain ⟨context, dockerfile, args⟩ := s
  cases context <;> cases dockerfile <;> cases args <;> rfl

theorem entries?_mapping (es : List (String × Value)) :
    entries? dialect (.mapping (es.map fun e => (.string e.1, e.2))) = some es := by
  cases dialect <;> exact Value.stringEntries?_mapping es

theorem filter_fields (s : BuildSection) :
    s.fields.filter (fieldNames.contains ·.1) = s.fields := by
  obtain ⟨context, dockerfile, args⟩ := s
  cases context <;> cases dockerfile <;> cases args <;> simp [fields, fieldNames]

theorem nodup_fields (s : BuildSection) : (s.fields.map (·.1)).Nodup := by
  obtain ⟨context, dockerfile, args⟩ := s
  cases context <;> cases dockerfile <;> cases args <;> simp [fields]

theorem optional_fields_context (s : BuildSection) :
    optional s.fields "context" (fun v => (v.string? dialect).toOption) = some s.context := by
  obtain ⟨context, dockerfile, args⟩ := s
  cases context <;> cases dockerfile <;> cases args <;> rfl

theorem optional_fields_dockerfile (s : BuildSection) :
    optional s.fields "dockerfile" (fun v => (v.string? dialect).toOption) =
      some s.dockerfile := by
  obtain ⟨context, dockerfile, args⟩ := s
  cases context <;> cases dockerfile <;> cases args <;> rfl

theorem optional_fields_args {s : BuildSection}
    (read : ∀ p ∈ s.args, Pairs.nested? p.toValue = some p) :
    optional s.fields "args" Pairs.nested? = some s.args := by
  obtain ⟨context, dockerfile, args⟩ := s
  cases args with
  | none => cases context <;> cases dockerfile <;> rfl
  | some p =>
    have nested := congrArg (Option.map some) (read p rfl)
    -- arguments are a mapping or a list, and neither is null
    cases p <;> cases context <;> cases dockerfile <;> exact nested

theorem optional_perm {es fs : List (String × Value)} (h : es.Perm fs)
    (names : (fs.map (·.1)).Nodup) (key : String) {α : Type} (decode : Value → Option α) :
    optional es key decode = optional fs key decode := by
  have same : fs.lookup key = es.lookup key := Dict.lookup_perm h.symm names key
  unfold optional
  rw [same]

theorem ofValue?_of_perm {s : BuildSection} {es : List (String × Value)} (h : es.Perm s.fields)
    (read : ∀ p ∈ s.args, Pairs.nested? p.toValue = some p) :
    ofValue? dialect (.mapping (es.map fun e => (.string e.1, e.2))) = some s := by
  have nodup := s.nodup_fields
  have known : (es.filter (fieldNames.contains ·.1)).Perm s.fields :=
    (h.filter _).trans (.of_eq s.filter_fields)
  have names := (known.map (·.1)).nodup_iff.2 nodup
  unfold ofValue?
  rw [entries?_mapping]
  simp only [bind, Option.bind]
  rw [if_neg (not_not_intro names), optional_perm known nodup, optional_perm known nodup,
    optional_perm known nodup, optional_fields_context, optional_fields_dockerfile,
    optional_fields_args read]
  rfl

theorem ofJson_toJson (s : BuildSection) :
    Value.ofJson s.toJson =
      .mapping ((Dict.ofList s.fields).entries.map fun e => (.string e.1, e.2)) := by
  have members : s.toJson = .object (List.filterMap id [
      s.context.map fun c => ("context", .string c),
      s.dockerfile.map fun d => ("dockerfile", .string d),
      s.args.map fun p => ("args", p.toJson)]) := by
    obtain ⟨context, dockerfile, args⟩ := s
    cases context <;> cases dockerfile <;> cases args <;> rfl
  have text (t : String) : Value.ofJson (.string t) = .string t := rfl
  rw [members, Value.ofJson_object]
  obtain ⟨context, dockerfile, args⟩ := s
  cases context <;> cases dockerfile <;> cases args <;> simp [fields, Pairs.ofJson_toJson, text]

theorem toBuild_ofBuild (b : Build) : (ofBuild b).toBuild = .ok b := by
  have context : (if b.context.isEmpty then none else some b.context).getD "" = b.context :=
    getD_nonEmpty b.context
  unfold toBuild ofBuild
  by_cases empty : b.args.isEmpty
  · have args : ∅ = b.args := Dict.ext (List.isEmpty_iff.1 empty).symm
    simp only [empty, if_true, bind, Except.bind, pure, Except.pure, context]
    rw [args]
  · simp only [empty, Bool.false_eq_true, if_false, Pairs.ofDict, Pairs.toDict,
      Pairs.texts_map_text, bind, Except.bind, pure, Except.pure, context]

end BuildSection

theorem Build.decode_of_perm {b : Build} {es : List (String × Value)}
    (h : es.Perm b.encode.fields) :
    decode dialect (.mapping (es.map fun e => (.string e.1, e.2))) = .ok b := by
  have args : ∀ p ∈ b.encode.args, Pairs.nested? p.toValue = some p := by
    intro p hp
    simp only [encode, BuildSection.ofBuild] at hp
    split at hp
    · contradiction
    · cases hp
      rw [Pairs.toValue_ofDict, Pairs.nested?_stringEntries]
  unfold decode
  rw [BuildSection.ofValue?_of_perm h args]
  exact BuildSection.toBuild_ofBuild b

theorem Build.decode_toValue_encode (b : Build) : decode dialect b.encode.toValue = .ok b := by
  rw [BuildSection.toValue_eq]
  exact decode_of_perm (.refl _)

/-- Every build comes back from the node that is written for it, in YAML with its fields as they are
declared and in JSON in the order of their names. -/
theorem Build.decode_written (b : Build) :
    decode .yaml b.encode.toValue = .ok b ∧ decode .json (.ofJson b.encode.toJson) = .ok b := by
  refine ⟨b.decode_toValue_encode, ?_⟩
  rw [BuildSection.ofJson_toJson]
  exact decode_of_perm (Dict.entries_ofList_perm b.encode.nodup_fields)

def BuildSection.args? : Value → Option (Option (Except FieldError (Dict String)))
  | .null => some none
  | v => (Pairs.nested? v).map fun pairs => some pairs.toDict

/-- Entries with one key, and values that are the same or arguments that decode alike. -/
def BuildSection.EntryAlike (e f : String × Value) : Prop :=
  e.1 = f.1 ∧ (e.2 = f.2 ∨ e.1 = "args" ∧ args? e.2 = args? f.2)

namespace BuildSection

theorem optional_congr {es fs : List (String × Value)} (h : List.Forall₂ EntryAlike es fs)
    {key : String} (other : key ≠ "args") {α : Type} (decode : Value → Option α) :
    optional es key decode = optional fs key decode := by
  have same : es.lookup key = fs.lookup key := by
    have found := Dict.lookup_rel (R := fun k v w => v = w ∨ k = "args" ∧ args? v = args? w) h key
    generalize es.lookup key = v, fs.lookup key = w at found
    cases found with
    | none => rfl
    | some alike => rw [alike.resolve_right fun args => other args.1]
  unfold optional
  rw [same]

theorem optional_args (es : List (String × Value)) :
    (optional es "args" Pairs.nested?).map (Option.map Pairs.toDict) =
      (es.lookup "args").elim (some none) args? := by
  unfold optional
  cases es.lookup "args" with
  | none => rfl
  | some v =>
    cases v <;> simp [args?, Option.map_map, Function.comp_def]

theorem optional_args_congr {es fs : List (String × Value)} (h : List.Forall₂ EntryAlike es fs) :
    (optional es "args" Pairs.nested?).map (Option.map Pairs.toDict) =
      (optional fs "args" Pairs.nested?).map (Option.map Pairs.toDict) := by
  have found := Dict.lookup_rel (R := fun k v w => v = w ∨ k = "args" ∧ args? v = args? w) h "args"
  rw [optional_args, optional_args]
  generalize es.lookup "args" = v, fs.lookup "args" = w at found
  cases found with
  | none => rfl
  | some alike =>
    rcases alike with rfl | ⟨_, same⟩
    · rfl
    · exact same

def build? (dialect : Dialect) (es : List (String × Value)) : Option (Except FieldError Build) :=
  let known := es.filter (fieldNames.contains ·.1)
  let text (v : Value) := (v.string? dialect).toOption
  if ¬ (known.map (·.1)).Nodup then none
  else
    (optional known "context" text).bind fun context =>
    (optional known "dockerfile" text).bind fun dockerfile =>
    ((optional known "args" Pairs.nested?).map (Option.map Pairs.toDict)).map fun args => do
      return { context := context.getD "", dockerfile, args := ← args.getD (.ok ∅) }

theorem map_toBuild_ofValue? (v : Value) :
    (ofValue? dialect v).map toBuild = (entries? dialect v).bind (build? dialect) := by
  unfold ofValue? build?
  cases entries? dialect v with
  | none => rfl
  | some es =>
    simp only [Option.bind_eq_bind, Option.bind_some]
    generalize es.filter (fieldNames.contains ·.1) = known
    split
    · rfl
    · cases optional known "context" fun v => (v.string? dialect).toOption with
      | none => rfl
      | some context =>
        simp only [Option.bind_some]
        cases optional known "dockerfile" fun v => (v.string? dialect).toOption with
        | none => rfl
        | some dockerfile =>
          simp only [Option.bind_some]
          cases optional known "args" Pairs.nested? with
          | none => rfl
          | some args => cases args <;> rfl

theorem args?_mapping (es : List (Value × Value)) :
    args? (.mapping es) = if (Value.mapping es).hasTag then none else
      ((Pairs.scalars? .json (.mapping es)).map Pairs.meaning).map fun table =>
        some (table.mapM fun _ text => text) := by
  change Option.map _ (if (Value.mapping es).hasTag then none else
    (Pairs.scalars? .json (.mapping es)).map Pairs.mapping) = _
  split
  · rfl
  · rw [Option.map_map, Option.map_map]
    refine congrArg (Option.map · _) (funext fun d => ?_)
    exact congrArg some (Pairs.texts_eq d)

theorem build?_congr {es fs : List (String × Value)} (h : List.Forall₂ EntryAlike es fs) :
    build? dialect es = build? dialect fs := by
  have known := List.rel_filter (p := fun e => fieldNames.contains e.1)
    (q := fun f => fieldNames.contains f.1) (fun e f same => by simp only [same.1]) h
  have keys := map_eq_of_forall₂ (known.imp fun _ _ same => same.1)
  unfold build?
  dsimp only
  rw [keys, optional_congr known (by decide), optional_congr known (by decide),
    optional_args_congr known]

end BuildSection

def Build.EntryAlike (dialect : Dialect) (e f : Value × Value) : Prop :=
  e.1 = f.1 ∧
    (e.2 = f.2 ∨ e.1.string? dialect = .ok "args" ∧ BuildSection.args? e.2 = BuildSection.args? f.2)

theorem Build.decode_mapping_congr {es fs : List (Value × Value)}
    (h : List.Forall₂ (EntryAlike dialect) es fs) :
    decode dialect (.mapping es) = decode dialect (.mapping fs) := by
  let named (e : Value × Value) := (e.1.string? dialect).toOption.map (·, e.2)
  have entries (es : List (Value × Value)) :
      BuildSection.entries? dialect (.mapping es) = es.mapM named := by
    cases dialect <;> rfl
  have alike :
      Option.Rel (List.Forall₂ BuildSection.EntryAlike) (es.mapM named) (fs.mapM named) := by
    refine option_mapM_rel ?_ h
    intro e f same
    unfold named
    rw [← same.1]
    cases key : e.1.string? dialect with
    | error _ => exact .none
    | ok name =>
      refine .some ⟨rfl, same.2.imp_right ?_⟩
      rintro ⟨args, same⟩
      exact ⟨Except.ok.inj (key.symm.trans args), same⟩
  have sections : (BuildSection.ofValue? dialect (.mapping es)).map BuildSection.toBuild =
      (BuildSection.ofValue? dialect (.mapping fs)).map BuildSection.toBuild := by
    rw [BuildSection.map_toBuild_ofValue?, BuildSection.map_toBuild_ofValue?, entries, entries]
    generalize es.mapM named = es, fs.mapM named = fs at alike
    cases alike with
    | none => rfl
    | some alike => exact BuildSection.build?_congr alike
  -- what is not a section is refused as a mapping, whatever its entries are
  unfold decode
  generalize BuildSection.ofValue? dialect (.mapping es) = s,
    BuildSection.ofValue? dialect (.mapping fs) = t at sections
  cases s <;> cases t
  · rfl
  · cases sections
  · cases sections
  · exact Option.some.inj sections

end Workload
