import Workload.Proofs.Traverse
import Workload.Proofs.Yaml.Decode

/-! Decoders that succeed alike. What a record makes of its scalar fields is a parameter of its
decoder, so decoders of one record succeed for the same documents when those of its scalars agree
on the nodes that occur there. -/
namespace Workload.Yaml

/-- The nodes below the root of a document, keys apart, and the nodes they refer to. -/
inductive Document.Occurs (d : Document) : Node → Prop
  | root {n : Node} (h : d.root = some n) : Occurs d n
  | item {tag : Option Tag} {items : List Node} {n : Node} (h : Occurs d (.sequence tag items))
      (mem : n ∈ items) : Occurs d n
  | value {tag : Option Tag} {es : List (Node × Node)} {e : Node × Node}
      (h : Occurs d (.mapping tag es)) (mem : e ∈ es) : Occurs d e.2
  | target {number : Nat} {n : Node} (h : Occurs d (.reference number))
      (found : d.anchors.node? number = some n) : Occurs d n

namespace Decode
variable {α β γ δ : Type} {doc : Document} {j k : Nat}

/-- In this document, and where so many collections may still be entered, both decoders succeed or
none does, and they follow as many references. -/
def Alike (doc : Document) (depth : Nat) (d : Decode α) (e : Decode β) : Prop :=
  ∀ s used, s.document = doc → depth ≤ s.depth → (d s used).map (·.2) = (e s used).map (·.2)

theorem bind_apply (d : Decode α) (f : α → Decode β) (s : Scope) (used : Nat) :
    (d >>= f) s used = (d s used).bind fun x => f x.1 s x.2 := rfl

namespace Alike

protected theorem refl (d : Decode α) : Alike doc k d d := fun _ _ _ _ => rfl

theorem mono {d : Decode α} {e : Decode β} (h : Alike doc j d e) (le : j ≤ k) : Alike doc k d e :=
  fun s used document depth => h s used document (Nat.le_trans le depth)

protected theorem pure (a : α) (b : β) : Alike doc k (pure a : Decode α) (pure b : Decode β) :=
  fun _ _ _ _ => rfl

protected theorem bind {d : Decode α} {e : Decode β} {f : α → Decode γ} {g : β → Decode δ}
    (h : Alike doc k d e) (next : ∀ a b, Alike doc k (f a) (g b)) :
    Alike doc k (d >>= f) (e >>= g) := by
  intro s used document depth
  have first := h s used document depth
  rw [bind_apply, bind_apply]
  cases hd : d s used with
  | none =>
    rw [hd] at first
    rw [Option.map_eq_none_iff.1 first.symm]
    rfl
  | some x =>
    rw [hd] at first
    obtain ⟨y, hy, same⟩ := Option.map_eq_some_iff.1 first.symm
    have same : y.2 = x.2 := same
    rw [hy, Option.bind_some, Option.bind_some, same]
    exact next x.1 y.1 s x.2 document depth

theorem bind_same {d : Decode α} {f : α → Decode β} {g : α → Decode γ}
    (next : ∀ s used a used', s.document = doc → d s used = some (a, used') →
      Alike doc k (f a) (g a)) : Alike doc k (d >>= f) (d >>= g) := by
  intro s used document depth
  rw [bind_apply, bind_apply]
  cases returned : d s used with
  | none => rfl
  | some x => exact next s used x.1 x.2 document returned s x.2 document depth

protected theorem map {d : Decode α} {e : Decode β} (f : α → γ) (g : β → δ)
    (h : Alike doc k d e) : Alike doc k (f <$> d) (g <$> e) := by
  rw [map_eq_pure_bind, map_eq_pure_bind]
  exact h.bind fun a b => .pure (f a) (g b)

theorem follow {n : Node} {f : Node → Decode α} {g : Node → Decode β} (occurs : doc.Occurs n)
    (next : ∀ m, doc.Occurs m → Alike doc k (f m) (g m)) :
    Alike doc k (follow n >>= f) (follow n >>= g) := by
  refine bind_same fun s used m used' document found => next m ?_
  have target := target?_of_follow found
  rw [document] at target
  cases n with
  | reference number => exact .target occurs target
  | _ =>
    cases target
    exact occurs

theorem within {d : Decode α} {e : Decode β} (h : Alike doc k d e) :
    Alike doc (k + 1) (within d) (within e) := by
  intro s used document depth
  obtain ⟨_, depth'⟩ := s
  cases depth' with
  | zero => rfl
  | succ depth' => exact h _ used document (Nat.le_of_succ_le_succ depth)

theorem mapM {xs : List α} {f : α → Decode β} {g : α → Decode γ}
    (h : ∀ x ∈ xs, Alike doc k (f x) (g x)) : Alike doc k (xs.mapM f) (xs.mapM g) := by
  induction xs with
  | nil => exact .pure _ _
  | cons x xs ih =>
    rw [List.mapM_cons, List.mapM_cons]
    refine (h x List.mem_cons_self).bind fun _ _ => ?_
    exact (ih fun x mem => h x (List.mem_cons_of_mem _ mem)).bind fun _ _ => .pure _ _

section Nodes
variable {value : Node → Decode α} {value' : Node → Decode β} {n : Node}

theorem list (occurs : doc.Occurs n) (h : ∀ m, doc.Occurs m → Alike doc k (value m) (value' m)) :
    Alike doc (k + 1) (list value n) (list value' n) := by
  refine follow occurs fun m hm => ?_
  split
  · exact within (mapM fun x mem => h x (hm.item mem))
  · exact .pure _ _
  · exact .refl fail

theorem optional (occurs : doc.Occurs n)
    (h : ∀ m, doc.Occurs m → Alike doc k (value m) (value' m)) :
    Alike doc k (optional value n) (optional value' n) := by
  refine follow occurs fun m hm => ?_
  have present := (h m hm).map some some
  split
  · split
    · exact .pure _ _
    · exact present
  · split
    · exact present
    · split
      · exact .pure _ _
      · exact .refl fail
  · exact present

theorem entries {body : List (String × Node) → Decode α} {body' : List (String × Node) → Decode β}
    (occurs : doc.Occurs n)
    (h : ∀ es, (∀ e ∈ es, doc.Occurs e.2) → Alike doc k (body es) (body' es)) :
    Alike doc (k + 1) (entries n body) (entries n body') := by
  refine follow occurs fun m hm => ?_
  split
  · refine within (bind_same fun s used es used' _ keyed => h es fun e mem => ?_)
    -- the entries with their keys read hold the values of the entries that are written
    obtain ⟨w, hw, v, u, read⟩ := exists_of_mem_forall₂ (mapM_eq_some keyed) mem
    obtain ⟨key, _, _, done⟩ := bind_eq_some_iff.1 read
    cases pure_eq_some_iff.1 done
    exact hm.value hw
  · exact (h [] nofun).mono (Nat.le_succ k)
  · exact .refl fail

theorem pairs (occurs : doc.Occurs n) (h : ∀ m, doc.Occurs m → Alike doc k (value m) (value' m)) :
    Alike doc (k + 1) (pairs value n) (pairs value' n) :=
  entries occurs fun _ inside => mapM fun e mem =>
    (h e.2 (inside e mem)).bind fun _ _ => .pure _ _

theorem dict (occurs : doc.Occurs n) (h : ∀ m, doc.Occurs m → Alike doc k (value m) (value' m)) :
    Alike doc (k + 1) (dict value n) (dict value' n) :=
  (pairs occurs h).map Dict.ofList Dict.ofList

theorem record {names : List String} {body : Fields → Decode α} {body' : Fields → Decode β}
    (occurs : doc.Occurs n)
    (h : ∀ fs, (∀ f ∈ fs, doc.Occurs f.2) → Alike doc k (body fs) (body' fs)) :
    Alike doc (k + 1) (record names body n) (record names body' n) := by
  refine entries occurs fun es inside => ?_
  dsimp only
  split
  · exact h _ fun f mem => inside f (List.mem_of_mem_filter mem)
  · exact .refl fail

section Fields
variable {fs : Fields} {name : String}

theorem withDefault (inside : ∀ f ∈ fs, doc.Occurs f.2)
    (h : ∀ m, doc.Occurs m → Alike doc j (value m) (value' m)) (a : α) (b : β) (le : j ≤ k) :
    Alike doc k (fs.withDefault name value a) (fs.withDefault name value' b) := by
  unfold Fields.withDefault
  cases found : fs.lookup name with
  | none => exact .pure a b
  | some m =>
    obtain ⟨before, after, rfl, _⟩ := List.lookup_eq_some_iff.1 found
    exact (h m (inside (name, m) (by simp))).mono le

theorem optionalField (inside : ∀ f ∈ fs, doc.Occurs f.2)
    (h : ∀ m, doc.Occurs m → Alike doc j (value m) (value' m)) (le : j ≤ k) :
    Alike doc k (fs.optional name value) (fs.optional name value') :=
  withDefault inside (fun _ hm => optional hm h) none none le

theorem listField (inside : ∀ f ∈ fs, doc.Occurs f.2)
    (h : ∀ m, doc.Occurs m → Alike doc j (value m) (value' m)) (le : j + 1 ≤ k) :
    Alike doc k (fs.listOf name value) (fs.listOf name value') :=
  withDefault inside (fun _ hm => list hm h) [] [] le

theorem dictField (inside : ∀ f ∈ fs, doc.Occurs f.2)
    (h : ∀ m, doc.Occurs m → Alike doc j (value m) (value' m)) (le : j + 1 ≤ k) :
    Alike doc k (fs.dictOf name value) (fs.dictOf name value') :=
  withDefault inside (fun _ hm => dict hm h) ∅ ∅ le

end Fields
end Nodes
end Alike

theorem isSome_run {d : Document} {a : α} {b : β} {f : Node → Decode α} {g : Node → Decode β}
    (h : ∀ n, d.root = some n → Alike d maxDepth (f n) (g n)) :
    (run d a f).isSome = (run d b g).isSome := by
  unfold run
  split
  · rfl
  · rename_i n root
    have same := congrArg Option.isSome (h n root { document := d } 0 rfl (Nat.le_refl _))
    rw [Option.isSome_map, Option.isSome_map] at same
    rw [Option.isSome_map, Option.isSome_map]
    exact same

end Decode
end Workload.Yaml
