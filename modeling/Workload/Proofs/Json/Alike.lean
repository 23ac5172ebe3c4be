import Workload.Codec.Scalar
import Workload.Json.Record
import Workload.Proofs.Traverse

/-! Decoders of JSON that succeed alike, whatever they make of the values. -/
namespace Workload.Json
variable {α β γ δ : Type} {root v : Json}

/-- The value itself and those inside, keys apart. -/
inductive Occurs (root : Json) : Json → Prop
  | self : Occurs root root
  | item {items : List Json} {v : Json} (h : Occurs root (.array items)) (mem : v ∈ items) :
      Occurs root v
  | member {ms : List (String × Json)} {m : String × Json} (h : Occurs root (.object ms))
      (mem : m ∈ ms) : Occurs root m.2

/-- Both succeed or none does. -/
def Alike (a : Option α) (b : Option β) : Prop := a.isSome = b.isSome

namespace Alike

protected theorem refl (a : Option α) : Alike a a := Eq.refl a.isSome

protected theorem some (a : α) (b : β) : Alike (some a) (some b) := Eq.refl true

protected theorem bind {a : Option α} {b : Option β} {f : α → Option γ} {g : β → Option δ}
    (h : Alike a b) (next : ∀ x y, Alike (f x) (g y)) : Alike (a >>= f) (b >>= g) := by
  cases a with
  | none =>
    cases b with
    | none => rfl
    | some y => cases h
  | some x =>
    cases b with
    | none => cases h
    | some y => exact next x y

protected theorem map {a : Option α} {b : Option β} (f : α → γ) (g : β → δ) (h : Alike a b) :
    Alike (a.map f) (b.map g) := by
  unfold Alike at h ⊢
  rw [Option.isSome_map, Option.isSome_map, h]

theorem mapM {xs : List α} {f : α → Option β} {g : α → Option γ}
    (h : ∀ x ∈ xs, Alike (f x) (g x)) : Alike (xs.mapM f) (xs.mapM g) := by
  induction xs with
  | nil => exact .some [] []
  | cons x xs ih =>
    rw [List.mapM_cons, List.mapM_cons]
    refine (h x List.mem_cons_self).bind fun _ _ => ?_
    exact (ih fun x mem => h x (List.mem_cons_of_mem _ mem)).bind fun ys zs =>
      .some (_ :: ys) (_ :: zs)

theorem record {names : List String} {f : Fields → Option α} {g : Fields → Option β}
    (occurs : root.Occurs v) (h : ∀ fs, (∀ x ∈ fs, root.Occurs x.2) → Alike (f fs) (g fs)) :
    Alike (v.record? names >>= f) (v.record? names >>= g) := by
  cases v with
  | object ms =>
    simp only [record?]
    split
    · exact h _ fun x mem => occurs.member (List.mem_of_mem_filter mem)
    · exact .refl none
  | array xs =>
    simp only [record?]
    split
    · exact h _ fun x mem => occurs.item (List.of_mem_zip mem).2
    · exact .refl none
  | _ => exact .refl none

section Values
variable {value : Json → Option α} {value' : Json → Option β}

theorem list (occurs : root.Occurs v) (h : ∀ w, root.Occurs w → Alike (value w) (value' w)) :
    Alike (v.list? value) (v.list? value') := by
  cases v with
  | array xs => exact mapM fun x mem => h x (occurs.item mem)
  | _ => exact .refl none

theorem dict (occurs : root.Occurs v) (h : ∀ w, root.Occurs w → Alike (value w) (value' w)) :
    Alike (v.dict? value) (v.dict? value') := by
  cases v with
  | object ms =>
    exact (mapM fun m mem => (h m.2 (occurs.member mem)).map (m.1, ·) (m.1, ·)).map _ _
  | _ => exact .refl none

theorem nullable (occurs : root.Occurs v) (h : ∀ w, root.Occurs w → Alike (value w) (value' w)) :
    Alike (v.nullable? value) (v.nullable? value') := by
  have present := (h v occurs).map some some
  cases v with
  | null => exact .some none none
  | _ => exact present

section Fields
variable {fs : Fields} {name : String}

theorem withDefault (inside : ∀ x ∈ fs, root.Occurs x.2)
    (h : ∀ w, root.Occurs w → Alike (value w) (value' w)) (a : α) (b : β) :
    Alike (fs.withDefault name value a) (fs.withDefault name value' b) := by
  unfold Fields.withDefault
  cases found : fs.lookup name with
  | none => exact .some a b
  | some w =>
    obtain ⟨before, after, rfl, _⟩ := List.lookup_eq_some_iff.1 found
    exact h w (inside (name, w) (by simp))

theorem optionalField (inside : ∀ x ∈ fs, root.Occurs x.2)
    (h : ∀ w, root.Occurs w → Alike (value w) (value' w)) :
    Alike (fs.optional name value) (fs.optional name value') :=
  withDefault inside (fun _ hw => nullable hw h) none none

theorem listField (inside : ∀ x ∈ fs, root.Occurs x.2)
    (h : ∀ w, root.Occurs w → Alike (value w) (value' w)) :
    Alike (fs.listOf name value) (fs.listOf name value') :=
  withDefault inside (fun _ hw => list hw h) [] []

theorem dictField (inside : ∀ x ∈ fs, root.Occurs x.2)
    (h : ∀ w, root.Occurs w → Alike (value w) (value' w)) :
    Alike (fs.dictOf name value) (fs.dictOf name value') :=
  withDefault inside (fun _ hw => dict hw h) ∅ ∅

end Fields
end Values
end Alike

def readable : Json → Bool
  | unreadable => false
  | _ => true

/-- A scalar field that takes the values which pass a test, and looks no further. -/
def unseen (test : Json → Bool) (v : Json) : Option Scalar := if test v then some .null else none

theorem readable_iff {v : Json} : v.readable ↔ v ≠ unreadable := by cases v <;> simp [readable]

theorem isSome_ofJson?_iff {v : Json} : (Scalar.ofJson? v).isSome ↔ v ≠ unreadable := by
  cases v <;> simp [Scalar.ofJson?]

theorem alike_scalar (v : Json) : Alike (Scalar.ofJson? v) (unseen readable v) := by
  cases v <;> rfl

theorem alike_unseen (h : v ≠ unreadable) :
    Alike (unseen (fun _ => true) v) (unseen readable v) := by
  unfold unseen
  rw [readable_iff.2 h]
  exact .refl _

end Workload.Json
