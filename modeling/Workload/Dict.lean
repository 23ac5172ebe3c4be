/-! Finite maps from strings, listed in ascending key order. -/
namespace Workload

/-- A table with at most one value per key; equal tables have equal listings. -/
structure Dict (α : Type u) where
  entries : List (String × α)
  ascending : entries.Pairwise (fun a b => a.1 < b.1)

namespace Dict
variable {α : Type u} {β : Type v}

theorem ext {d e : Dict α} (h : d.entries = e.entries) : d = e := by
  cases d; cases e; cases h; rfl

instance [DecidableEq α] : DecidableEq (Dict α) := fun d e =>
  if h : d.entries = e.entries then isTrue (ext h) else isFalse fun he => h (he ▸ rfl)

def empty : Dict α := ⟨[], .nil⟩

instance : Inhabited (Dict α) := ⟨empty⟩
instance : EmptyCollection (Dict α) := ⟨empty⟩

def isEmpty (d : Dict α) : Bool := d.entries.isEmpty
def size (d : Dict α) : Nat := d.entries.length
def keys (d : Dict α) : List String := d.entries.map (·.1)

def place (key : String) (value : α) : List (String × α) → List (String × α)
  | [] => [(key, value)]
  | e :: es =>
    if key < e.1 then (key, value) :: e :: es
    else if key = e.1 then (key, value) :: es
    else e :: place key value es

theorem mem_place {key : String} {value : α} {es : List (String × α)} {x : String × α}
    (h : x ∈ place key value es) : x = (key, value) ∨ x ∈ es := by
  induction es with
  | nil => simpa [place] using h
  | cons e es ih =>
    simp only [place] at h
    split at h
    · simpa using h
    · split at h
      · rcases List.mem_cons.1 h with h | h
        · exact .inl h
        · exact .inr (List.mem_cons_of_mem _ h)
      · rcases List.mem_cons.1 h with h | h
        · exact .inr (h ▸ List.mem_cons_self)
        · exact (ih h).imp_right (List.mem_cons_of_mem _)

theorem pairwise_place (key : String) (value : α) {es : List (String × α)}
    (h : es.Pairwise (fun a b => a.1 < b.1)) :
    (place key value es).Pairwise (fun a b => a.1 < b.1) := by
  induction es with
  | nil => simp [place]
  | cons e es ih =>
    rw [List.pairwise_cons] at h
    simp only [place]
    split
    · rename_i hlt
      refine .cons (fun x hx => ?_) (.cons h.1 h.2)
      rcases List.mem_cons.1 hx with rfl | hx
      · exact hlt
      · exact String.lt_trans hlt (h.1 x hx)
    · split
      · rename_i heq
        exact .cons (fun x hx => heq ▸ h.1 x hx) h.2
      · rename_i hlt hne
        refine .cons (fun x hx => ?_) (ih h.2)
        rcases mem_place hx with rfl | hx
        · exact Std.lt_of_le_of_ne (String.not_lt.1 hlt) (Ne.symm hne)
        · exact h.1 x hx

def insert (d : Dict α) (key : String) (value : α) : Dict α :=
  ⟨place key value d.entries, pairwise_place key value d.ascending⟩

def ofList (es : List (String × α)) : Dict α :=
  es.foldl (fun d e => d.insert e.1 e.2) empty

def find? (d : Dict α) (key : String) : Option α := d.entries.lookup key

def contains (d : Dict α) (key : String) : Bool := (d.find? key).isSome

def map (f : α → β) (d : Dict α) : Dict β :=
  ⟨d.entries.map fun e => (e.1, f e.2), by
    rw [List.pairwise_map]; exact d.ascending⟩

def mapEntries (f : String → α → Except ε β) : List (String × α) → Except ε (List (String × β))
  | [] => .ok []
  | e :: es => do
    let b ← f e.1 e.2
    let bs ← mapEntries f es
    .ok ((e.1, b) :: bs)

theorem keys_mapEntries {f : String → α → Except ε β} {es : List (String × α)}
    {bs : List (String × β)} (h : mapEntries f es = .ok bs) :
    bs.map (·.1) = es.map (·.1) := by
  induction es generalizing bs with
  | nil => cases h; rfl
  | cons e es ih =>
    simp only [mapEntries, bind, Except.bind] at h
    split at h
    · contradiction
    · split at h
      · contradiction
      · rename_i hs
        cases h
        simp [ih hs]

theorem pairwise_keys {es : List (String × α)} {bs : List (String × β)}
    (h : bs.map (·.1) = es.map (·.1)) (hes : es.Pairwise (fun a b => a.1 < b.1)) :
    bs.Pairwise (fun a b => a.1 < b.1) := by
  rw [← List.pairwise_map (f := Prod.fst) (R := (· < ·))] at hes ⊢
  exact h ▸ hes

/-- Every value under `f`, or the failure of the least key that fails. -/
def mapM (f : String → α → Except ε β) (d : Dict α) : Except ε (Dict β) :=
  match h : mapEntries f d.entries with
  | .ok bs => .ok ⟨bs, pairwise_keys (keys_mapEntries h) d.ascending⟩
  | .error e => .error e

end Dict
end Workload
