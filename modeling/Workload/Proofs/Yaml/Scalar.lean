import Workload.Proofs.Yaml.Alike
import Mathlib.Algebra.Group.Int.Defs

/-! Which nodes a scalar field takes. There are few that it refuses, and none for the kind of value
that they hold. -/
namespace Workload.Yaml

/-! Integers are told from the other plain scalars by their text. -/

theorem numberOfInteger?_eq_none_iff {i : Int} :
    numberOfInteger? i = none ↔ i < -2 ^ 63 ∨ 2 ^ 64 ≤ i := by
  have low : Int64.minValue.toInt = -2 ^ 63 := by decide
  have size : UInt64.size = 2 ^ 64 := rfl
  unfold numberOfInteger? Number.ofNat?
  rw [low, size]
  split
  · split <;> simp <;> omega
  · split <;> simp <;> omega

theorem integer?_eq_none_of_null {s : String} (h : (s.isEmpty || isNullText s) = true) :
    integer? s = none := by
  unfold isNullText at h
  simp only [Bool.or_eq_true, beq_iff_eq, String.isEmpty_iff] at h
  rcases h with rfl | ((rfl | rfl) | rfl) | rfl <;> decide

theorem integer?_eq_none_of_bool {s : String} {b : Bool} (h : boolOfText? s = some b) :
    integer? s = none := by
  unfold boolOfText? at h
  simp only [Bool.or_eq_true, beq_iff_eq] at h
  split at h
  · rename_i word
    rcases word with (rfl | rfl) | rfl <;> decide
  · split at h
    · rename_i word
      rcases word with (rfl | rfl) | rfl <;> decide
    · cases h

theorem valueOfPlain?_eq_none_iff {s : String} :
    valueOfPlain? s = none ↔ ∃ i, integer? s = some i ∧ numberOfInteger? i = none := by
  unfold valueOfPlain?
  split
  · rename_i null
    simp [integer?_eq_none_of_null null]
  · split
    · rename_i bool
      simp [integer?_eq_none_of_bool bool]
    · split
      · rename_i i integer
        simp [integer]
      · rename_i integer
        rw [integer]
        split
        · simp
        · split <;> simp

/-! The kinds of values that tags can ask for. -/

def coreKinds : List String := ["bool", "int", "float", "null"]

theorem core_injective : ∀ a ∈ coreKinds, ∀ b ∈ coreKinds, Tag.core a = Tag.core b → a = b := by
  decide +kernel

theorem isLocal_core : ∀ kind ∈ coreKinds, (Tag.core kind).isLocal = false := by decide +kernel

def isOfKind : String → String → Bool
  | "bool", text => (boolOfText? text).isSome
  | "int", text => (integer? text).isSome
  | "float", text => (fraction? text).isSome
  | "null", text => isNullText text
  | _, _ => true

/-- The text of the scalar is read as an integer whenever it has the form of one. -/
def ReadsInteger (tag : Option Tag) (style : ScalarStyle) : Prop :=
  tag = some (.core "int") ∨ (style = .plain ∧ ∀ t ∈ tag, t.isLocal)

theorem valueOfScalar?_of_local {tag : Option Tag} {text : String} {style : ScalarStyle}
    (h : ∀ t ∈ tag, t.isLocal) :
    valueOfScalar? tag text style =
      if style = .plain then valueOfPlain? text else some (.string text) := by
  cases tag with
  | none => rfl
  | some t =>
    have ne (kind : String) (known : kind ∈ coreKinds) : t ≠ .core kind := by
      rintro rfl
      have loc := h _ rfl
      rw [isLocal_core kind known] at loc
      contradiction
    unfold valueOfScalar?
    dsimp only
    rw [if_neg (ne "bool" (by decide)), if_neg (ne "int" (by decide)),
      if_neg (ne "float" (by decide)), if_neg (ne "null" (by decide)), if_pos (h t rfl)]

theorem valueOfScalar?_core_eq_none_iff {kind text : String} {style : ScalarStyle}
    (known : kind ∈ coreKinds) :
    valueOfScalar? (some (.core kind)) text style = none ↔
      isOfKind kind text = false ∨
        kind = "int" ∧ ∃ i, integer? text = some i ∧ numberOfInteger? i = none := by
  have ne (other : String) (h : other ∈ coreKinds) (hne : kind ≠ other) :
      Tag.core kind ≠ Tag.core other := fun same => hne (core_injective _ known _ h same)
  unfold valueOfScalar?
  dsimp only
  simp only [coreKinds, List.mem_cons, List.not_mem_nil, or_false] at known
  rcases known with rfl | rfl | rfl | rfl
  · rw [if_pos rfl]
    simp [isOfKind]
  · rw [if_neg (ne "bool" (by decide) (by decide)), if_pos rfl]
    cases integer : integer? text with
    | none => simp [isOfKind, integer]
    | some i => cases number : numberOfInteger? i <;> simp [isOfKind, integer, number]
  · rw [if_neg (ne "bool" (by decide) (by decide)), if_neg (ne "int" (by decide) (by decide)),
      if_pos rfl]
    simp [isOfKind]
  · rw [if_neg (ne "bool" (by decide) (by decide)), if_neg (ne "int" (by decide) (by decide)),
      if_neg (ne "float" (by decide) (by decide)), if_pos rfl]
    simp [isOfKind]

theorem valueOfScalar?_other {tag : Tag} {text : String} {style : ScalarStyle}
    (unknown : ∀ kind ∈ coreKinds, tag ≠ .core kind) (shared : tag.isLocal = false) :
    valueOfScalar? (some tag) text style = some (.string text) := by
  unfold valueOfScalar?
  dsimp only
  rw [if_neg (unknown "bool" (by decide)), if_neg (unknown "int" (by decide)),
    if_neg (unknown "float" (by decide)), if_neg (unknown "null" (by decide)), shared]
  rfl

namespace Node

def tag? : Node → Option Tag
  | scalar tag _ _ | sequence tag _ | mapping tag _ => tag
  | reference _ => none

def present : Node → Bool
  | reference _ => false
  | _ => true

end Node

/-- Nodes that a scalar field refuses. -/
inductive Refused : Node → Prop
  | tagged {n : Node} (h : (Decode.localName? n.tag?).isSome) : Refused n
  /-- Sixty-four bits do not hold the integer. -/
  | wide {tag : Option Tag} {text : String} {style : ScalarStyle} {i : Int}
      (read : ReadsInteger tag style) (integer : integer? text = some i)
      (out : i < -2 ^ 63 ∨ 2 ^ 64 ≤ i) : Refused (.scalar tag text style)
  | misfit {kind text : String} {style : ScalarStyle} (known : kind ∈ coreKinds)
      (h : isOfKind kind text = false) : Refused (.scalar (some (.core kind)) text style)

theorem refused_scalar_iff {tag : Option Tag} {text : String} {style : ScalarStyle} :
    Refused (.scalar tag text style) ↔
      (Decode.localName? tag).isSome ∨ valueOfScalar? tag text style = none := by
  constructor
  · intro h
    cases h with
    | tagged h => exact .inl h
    | @wide _ _ _ i read integer out =>
      have none := numberOfInteger?_eq_none_iff.2 out
      rcases read with rfl | ⟨rfl, loc⟩
      · exact .inr ((valueOfScalar?_core_eq_none_iff (by decide)).2 (.inr ⟨rfl, i, integer, none⟩))
      · rw [valueOfScalar?_of_local loc, if_pos rfl]
        exact .inr (valueOfPlain?_eq_none_iff.2 ⟨i, integer, none⟩)
    | misfit known h => exact .inr ((valueOfScalar?_core_eq_none_iff known).2 (.inl h))
  · rintro (h | h)
    · exact .tagged h
    · by_cases loc : ∀ t ∈ tag, t.isLocal
      · rw [valueOfScalar?_of_local loc] at h
        split at h
        · rename_i plain
          obtain ⟨i, integer, none⟩ := valueOfPlain?_eq_none_iff.1 h
          exact .wide (.inr ⟨plain, loc⟩) integer (numberOfInteger?_eq_none_iff.1 none)
        · cases h
      · cases tag with
        | none => exact absurd nofun loc
        | some t =>
          have shared : t.isLocal = false := by simpa using loc
          by_cases core : ∀ kind ∈ coreKinds, t ≠ .core kind
          · rw [valueOfScalar?_other core shared] at h
            cases h
          · push Not at core
            obtain ⟨kind, known, rfl⟩ := core
            rcases (valueOfScalar?_core_eq_none_iff known).1 h with h | ⟨rfl, i, integer, none⟩
            · exact .misfit known h
            · exact .wide (.inl rfl) integer (numberOfInteger?_eq_none_iff.1 none)

namespace Decode

/-- Whether a scalar field takes the node. -/
def accepts : Node → Bool
  | .scalar tag text style => (localName? tag).isNone && (valueOfScalar? tag text style).isSome
  | .sequence tag _ | .mapping tag _ => (localName? tag).isNone
  | .reference _ => false

theorem refused_iff_of_collection {n : Node} (h : ∀ tag text style, n ≠ .scalar tag text style) :
    Refused n ↔ (localName? n.tag?).isSome := by
  constructor
  · intro refused
    cases refused with
    | tagged h => exact h
    | wide => exact absurd rfl (h _ _ _)
    | misfit => exact absurd rfl (h _ _ _)
  · exact .tagged

theorem refused_sequence_iff {tag : Option Tag} {items : List Node} :
    Refused (.sequence tag items) ↔ (localName? tag).isSome :=
  refused_iff_of_collection nofun

theorem refused_mapping_iff {tag : Option Tag} {es : List (Node × Node)} :
    Refused (.mapping tag es) ↔ (localName? tag).isSome :=
  refused_iff_of_collection nofun

theorem accepts_iff {n : Node} : accepts n ↔ n.present ∧ ¬Refused n := by
  cases n with
  | scalar tag text style =>
    simp [refused_scalar_iff, accepts, Node.present, Option.isSome_iff_ne_none]
  | sequence tag items => simp [refused_sequence_iff, accepts, Node.present]
  | mapping tag es => simp [refused_mapping_iff, accepts, Node.present]
  | reference number => simp [accepts, Node.present]

def unseen (test : Node → Bool) (n : Node) : Decode Scalar := do
  if test (← follow n) then pure .null else fail

theorem isSome_ofValue?_of_plain {text : String} {v : Value} (h : valueOfPlain? text = some v) :
    (Scalar.ofValue? v).isSome := by
  unfold valueOfPlain? at h
  split at h
  · cases h
    rfl
  · split at h
    · cases h
      rfl
    · split at h
      · obtain ⟨_, _, rfl⟩ := Option.map_eq_some_iff.1 h
        rfl
      · split at h
        · cases h
          rfl
        · split at h <;> cases h <;> rfl

theorem isSome_ofValue?_of_scalar {tag : Option Tag} {text : String} {style : ScalarStyle}
    {v : Value} (h : valueOfScalar? tag text style = some v) : (Scalar.ofValue? v).isSome := by
  have untagged
      (h : (if style = .plain then valueOfPlain? text else some (.string text)) = some v) :
      (Scalar.ofValue? v).isSome := by
    split at h
    · exact isSome_ofValue?_of_plain h
    · cases h
      rfl
  unfold valueOfScalar? at h
  dsimp only at h
  split at h
  · exact untagged h
  · split at h
    · obtain ⟨_, _, rfl⟩ := Option.map_eq_some_iff.1 h
      rfl
    · split at h
      · simp only [Option.bind_eq_bind, Option.bind_eq_some_iff] at h
        obtain ⟨_, _, _, _, h⟩ := h
        cases h
        rfl
      · split at h
        · obtain ⟨_, _, rfl⟩ := Option.map_eq_some_iff.1 h
          rfl
        · split at h
          · split at h <;> cases h
            rfl
          · split at h
            · exact untagged h
            · cases h
              rfl

/-- A scalar field takes the nodes that it accepts, and what it makes of them decides nothing. -/
theorem alike_scalar {doc : Document} (n : Node) :
    Alike doc 1 (scalar n) (unseen accepts n) := by
  have collection (c : Collection) : Alike doc 1 (within (pure (Scalar.unsupported c)))
      (pure Scalar.null : Decode Scalar) := by
    intro s used document depth
    obtain ⟨_, depth'⟩ := s
    cases depth' with
    | zero => cases depth
    | succ depth' => rfl
  refine .bind_same fun s used m used' _ _ => ?_
  cases m with
  | scalar tag text style =>
    cases name : localName? tag with
    | some _ =>
      simp only [accepts, name, Option.isSome_some, Option.isNone_some, Bool.false_and]
      exact .refl fail
    | none =>
      cases value : valueOfScalar? tag text style with
      | none =>
        simp only [accepts, name, value, Option.isSome_none, Option.isNone_none, Bool.and_false]
        exact .refl fail
      | some v =>
        obtain ⟨x, made⟩ := Option.isSome_iff_exists.1 (isSome_ofValue?_of_scalar value)
        simp only [accepts, name, value, Option.isSome_some, Option.isNone_none, Bool.and_self,
          Option.isSome_none, Option.bind_some, made]
        exact .pure _ _
  | sequence tag items =>
    cases name : localName? tag with
    | some _ =>
      simp only [accepts, name, Option.isSome_some, Option.isNone_some]
      exact .refl fail
    | none =>
      simp only [accepts, name, Option.isSome_none, Option.isNone_none]
      exact collection .sequence
  | mapping tag es =>
    cases name : localName? tag with
    | some _ =>
      simp only [accepts, name, Option.isSome_some, Option.isNone_some]
      exact .refl fail
    | none =>
      simp only [accepts, name, Option.isSome_none, Option.isNone_none]
      exact collection .mapping
  | reference number => exact .refl fail

theorem isSome_scalar_iff {n : Node} {s : Scope} {used : Nat} (room : 0 < s.depth) :
    (scalar n s used).isSome ↔
      ∃ m used', follow n s used = some (m, used') ∧ m.present ∧ ¬Refused m := by
  have same := congrArg Option.isSome (alike_scalar n s used rfl room)
  rw [Option.isSome_map, Option.isSome_map] at same
  have tested (m : Node) (used' : Nat) :
      ((if accepts m then pure .null else fail : Decode Scalar) s used').isSome = accepts m := by
    cases accepts m <;> rfl
  rw [same]
  unfold unseen
  rw [bind_apply]
  cases found : follow n s used with
  | none => simp
  | some x =>
    rw [Option.bind_some, tested, accepts_iff]
    constructor
    · exact fun accepted => ⟨x.1, x.2, rfl, accepted⟩
    · rintro ⟨m, used', here, accepted⟩
      cases here
      exact accepted

theorem alike_unseen {doc : Document} {k : Nat} {n : Node} (occurs : doc.Occurs n)
    (clean : ∀ m, doc.Occurs m → ¬Refused m) :
    Alike doc k (unseen Node.present n) (unseen accepts n) := by
  refine .follow occurs fun m hm => ?_
  have same : m.present = accepts m := by
    rw [Bool.eq_iff_iff, accepts_iff]
    exact ⟨fun present => ⟨present, clean m hm⟩, And.left⟩
  rw [same]
  exact .refl _

end Decode
end Workload.Yaml
