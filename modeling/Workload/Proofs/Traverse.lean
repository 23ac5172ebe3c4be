import Workload.Error
import Mathlib.Data.List.Perm.Basic

/-! Reading element by element. A list is read when each of its elements is, so neither the order
of the elements nor their number decides what becomes of one. -/
namespace Workload
variable {α β γ δ ε : Type}

theorem bind_eq_ok_iff {r : Except ε α} {f : α → Except ε β} {b : β} :
    r >>= f = .ok b ↔ ∃ a, r = .ok a ∧ f a = .ok b := by
  cases r <;> simp [bind, Except.bind]

theorem bind_eq_error_iff {r : Except ε α} {f : α → Except ε β} {e : ε} :
    r >>= f = .error e ↔ r = .error e ∨ ∃ a, r = .ok a ∧ f a = .error e := by
  cases r <;> simp [bind, Except.bind]

theorem pure_eq_ok_iff {a b : α} : (pure a : Except ε α) = .ok b ↔ a = b := by
  simp [pure, Except.pure]

theorem return_eq_ok_iff {P : γ → Prop} {f : γ → α} {r : Except ε α} {g : α → β} {b : β}
    (made : ∀ a, r = .ok a ↔ ∃ c, P c ∧ a = f c) :
    (do return g (← r)) = .ok b ↔ ∃ c, P c ∧ b = g (f c) := by
  simp only [bind_eq_ok_iff, pure_eq_ok_iff, made]
  constructor
  · rintro ⟨_, ⟨c, hc, rfl⟩, rfl⟩
    exact ⟨c, hc, rfl⟩
  · rintro ⟨c, hc, rfl⟩
    exact ⟨_, ⟨c, hc, rfl⟩, rfl⟩

theorem inField_eq_ok_iff {format container field : String} {r : Except FieldError α} {a : α} :
    inField format container field r = .ok a ↔ r = .ok a := by
  cases r <;> simp [inField, Except.mapError]

theorem mapM_eq_ok_iff {f : α → Except ε β} {xs : List α} {ys : List β} :
    xs.mapM f = .ok ys ↔ List.Forall₂ (fun x y => f x = .ok y) xs ys := by
  induction xs generalizing ys with
  | nil => simp [pure, Except.pure, eq_comm]
  | cons x xs ih =>
    simp only [List.mapM_cons, bind_eq_ok_iff, pure_eq_ok_iff, ih, List.forall₂_cons_left_iff]
    simp only [eq_comm, exists_and_left]

theorem mapM_eq_some_iff {f : α → Option β} {xs : List α} {ys : List β} :
    xs.mapM f = some ys ↔ List.Forall₂ (fun x y => f x = some y) xs ys := by
  induction xs generalizing ys with
  | nil => simp [eq_comm]
  | cons x xs ih =>
    simp only [List.mapM_cons, Option.bind_eq_bind, Option.bind_eq_some_iff, Option.pure_def,
      Option.some.injEq, ih, List.forall₂_cons_left_iff]
    simp only [eq_comm, exists_and_left]

theorem mapM_return_eq_ok_iff {f : α → Except ε β} {g : β → γ} {xs : List α} {zs : List γ} :
    (xs.mapM fun x => do return g (← f x)) = .ok zs ↔
      ∃ ys, xs.mapM f = .ok ys ∧ zs = ys.map g := by
  induction xs generalizing zs with
  | nil => simp [pure, Except.pure, eq_comm]
  | cons x xs ih =>
    simp only [List.mapM_cons, bind_eq_ok_iff, pure_eq_ok_iff, ih]
    constructor
    · rintro ⟨_, ⟨y, hy, rfl⟩, _, ⟨ys, hys, rfl⟩, rfl⟩
      exact ⟨y :: ys, ⟨y, hy, ys, hys, rfl⟩, rfl⟩
    · rintro ⟨_, ⟨y, hy, ys, hys, rfl⟩, rfl⟩
      exact ⟨g y, ⟨y, hy, rfl⟩, ys.map g, ⟨ys, hys, rfl⟩, rfl⟩

theorem mapM_return_bind_eq_ok_iff {f : α → Except ε β} {g : β → γ} {k : List γ → Except ε δ}
    {xs : List α} {d : δ} :
    ((xs.mapM fun x => do return g (← f x)) >>= k) = .ok d ↔
      ∃ ys, xs.mapM f = .ok ys ∧ k (ys.map g) = .ok d := by
  simp only [bind_eq_ok_iff (f := k), mapM_return_eq_ok_iff]
  constructor
  · rintro ⟨_, ⟨ys, read, rfl⟩, rest⟩
    exact ⟨ys, read, rest⟩
  · rintro ⟨ys, read, rest⟩
    exact ⟨_, ⟨ys, read, rfl⟩, rest⟩

theorem map_eq_of_forall₂ {k : α → γ} {l : β → γ} {xs : List α} {ys : List β}
    (h : List.Forall₂ (fun x y => k x = l y) xs ys) : xs.map k = ys.map l := by
  rw [← List.forall₂_eq_eq_eq, List.forall₂_map_left_iff, List.forall₂_map_right_iff]
  exact h

theorem map_eq_of_mapM {f : α → Except ε β} {k : α → γ} {l : β → γ} {xs : List α} {ys : List β}
    (read : xs.mapM f = .ok ys) (h : ∀ x y, f x = .ok y → k x = l y) : xs.map k = ys.map l :=
  map_eq_of_forall₂ ((mapM_eq_ok_iff.1 read).imp h)

theorem exists_of_mem_forall₂ {R : α → β → Prop} {xs : List α} {ys : List β}
    (h : List.Forall₂ R xs ys) {y : β} (mem : y ∈ ys) : ∃ x ∈ xs, R x y := by
  induction h with
  | nil => cases mem
  | @cons x _ xs _ head _ ih =>
    rcases List.mem_cons.1 mem with rfl | mem
    · exact ⟨x, List.mem_cons_self, head⟩
    · obtain ⟨x, hx, made⟩ := ih mem
      exact ⟨x, List.mem_cons_of_mem _ hx, made⟩

theorem filterMap_eq_map {k : α → Option γ} {l : β → γ} {xs : List α} {ys : List β}
    (h : List.Forall₂ (fun x y => k x = some (l y)) xs ys) : xs.filterMap k = ys.map l := by
  induction h with
  | nil => rfl
  | cons hxy _ ih => rw [List.filterMap_cons_some hxy, List.map_cons, ih]

theorem mem_iff_of_mapM {f : α → Except ε β} {xs : List α} {ys : List β}
    (read : xs.mapM f = .ok ys) {y : β} : y ∈ ys ↔ ∃ x ∈ xs, f x = .ok y := by
  have pairs := mapM_eq_ok_iff.1 read
  constructor
  · exact exists_of_mem_forall₂ pairs
  · rintro ⟨x, mem, made⟩
    obtain ⟨z, hz, made'⟩ := exists_of_mem_forall₂ pairs.flip mem
    rw [made, Except.ok.injEq] at made'
    exact made' ▸ hz

section FirstFailure

theorem exists_mapM_eq_ok_iff {f : α → Except ε β} {xs : List α} :
    (∃ ys, xs.mapM f = .ok ys) ↔ ∀ x ∈ xs, ∃ y, f x = .ok y := by
  simp only [mapM_eq_ok_iff]
  induction xs with
  | nil => simp
  | cons x xs ih =>
    simp only [List.forall₂_cons_left_iff, List.forall_mem_cons, ← ih]
    constructor
    · rintro ⟨_, y, ys, head, tail, rfl⟩
      exact ⟨⟨y, head⟩, ys, tail⟩
    · rintro ⟨⟨y, head⟩, ys, tail⟩
      exact ⟨_, y, ys, head, tail, rfl⟩

theorem mapM_eq_error_of_first {f : α → Except ε β} {before after : List α} {x : α} {e : ε}
    (read : ∀ y ∈ before, ∃ z, f y = .ok z) (failed : f x = .error e) :
    (before ++ x :: after).mapM f = .error e := by
  induction before with
  | nil =>
    rw [List.nil_append, List.mapM_cons, failed]
    rfl
  | cons y before ih =>
    obtain ⟨⟨z, hz⟩, read⟩ := List.forall_mem_cons.1 read
    rw [List.cons_append, List.mapM_cons, hz, ih read]
    rfl

theorem exists_first_not {p : α → Prop} {xs : List α} (h : ¬∀ x ∈ xs, p x) :
    ∃ before x after, xs = before ++ x :: after ∧ (∀ y ∈ before, p y) ∧ ¬p x := by
  classical
  have fails : (xs.find? fun x => !decide (p x)).isSome := by simpa using h
  obtain ⟨x, found⟩ := Option.isSome_iff_exists.1 fails
  obtain ⟨fails, before, after, split, passes⟩ := List.find?_eq_some_iff_append.1 found
  exact ⟨before, x, after, split, by simpa using passes, by simpa using fails⟩

end FirstFailure

section Written

theorem mapM_map {f : β → Except ε γ} {g : α → β} {h : α → γ} {xs : List α}
    (hf : ∀ x ∈ xs, f (g x) = .ok (h x)) : (xs.map g).mapM f = .ok (xs.map h) := by
  rw [mapM_eq_ok_iff, List.forall₂_map_left_iff, List.forall₂_map_right_iff, List.forall₂_same]
  exact hf

theorem mapM_map_pure {m : Type → Type} [Monad m] [LawfulMonad m] {f : β → m γ} {g : α → β}
    {h : α → γ} (hf : ∀ x, f (g x) = pure (h x)) (xs : List α) :
    (xs.map g).mapM f = pure (xs.map h) := by
  have step : f ∘ g = fun x => pure (h x) := funext hf
  rw [List.mapM_map, step, List.mapM_pure]

theorem mapM_map_self {f : β → Except ε α} {g : α → β} (hf : ∀ x, f (g x) = .ok x)
    (xs : List α) : (xs.map g).mapM f = .ok xs := by
  have h : (xs.map g).mapM f = .ok (xs.map id) := mapM_map fun x _ => hf x
  rwa [List.map_id] at h

theorem option_mapM_map {f : β → Except ε γ} {g : α → β} {h : α → γ}
    (hf : ∀ x, f (g x) = .ok (h x)) (o : Option α) : (o.map g).mapM f = .ok (o.map h) := by
  cases o with
  | none => rfl
  | some x => simp [hf, Functor.map, Except.map]

theorem mapM_map_eq_some {f : β → Option α} {g : α → β} {xs : List α}
    (hf : ∀ x ∈ xs, f (g x) = some x) : (xs.map g).mapM f = some xs := by
  induction xs with
  | nil => rfl
  | cons x xs ih =>
    rw [List.forall_mem_cons] at hf
    rw [List.map_cons, List.mapM_cons, hf.1, ih hf.2]
    rfl

theorem option_mapM_map_self {f : β → Except ε α} {g : α → β} (hf : ∀ x, f (g x) = .ok x)
    (o : Option α) : (o.map g).mapM f = .ok o := by
  simpa using option_mapM_map (h := id) hf o

end Written

section Matched

/-- Elements in another order are read as the same values in that order. -/
theorem mapM_perm {f : α → Except ε β} {xs zs : List α} {ys : List β} (h : xs.Perm zs)
    (hxs : xs.mapM f = .ok ys) : ∃ ws, zs.mapM f = .ok ws ∧ ys.Perm ws := by
  obtain ⟨ws, hws, perm⟩ := List.perm_comp_forall₂ h.symm (mapM_eq_ok_iff.1 hxs)
  exact ⟨ws, mapM_eq_ok_iff.2 hws, perm.symm⟩

theorem option_list_mapM_perm {f : α → Option β} {xs zs : List α} {ys : List β} (h : xs.Perm zs)
    (hxs : xs.mapM f = some ys) : ∃ ws, zs.mapM f = some ws ∧ ys.Perm ws := by
  obtain ⟨ws, hws, perm⟩ := List.perm_comp_forall₂ h.symm (mapM_eq_some_iff.1 hxs)
  exact ⟨ws, mapM_eq_some_iff.2 hws, perm.symm⟩

/-- The lists agree element by element once one of them is put in order. -/
def Matched (R : α → β → Prop) (xs : List α) (ys : List β) : Prop :=
  ∃ zs, xs.Perm zs ∧ List.Forall₂ R zs ys

theorem Matched.of_perms {R : α → β → Prop} {xs xs' : List α} {ys ys' : List β}
    (h : Matched R xs ys) (hxs : xs'.Perm xs) (hys : ys.Perm ys') : Matched R xs' ys' := by
  obtain ⟨zs, perm, hzs⟩ := h
  obtain ⟨ws, hws, perm'⟩ : Relation.Comp List.Perm (List.Forall₂ R) zs ys' := by
    rw [← List.forall₂_comp_perm_eq_perm_comp_forall₂]
    exact ⟨ys, hzs, hys⟩
  exact ⟨ws, (hxs.trans perm).trans hws, perm'⟩

theorem mapM_forall₂ {R : α → β → Prop} {S : γ → δ → Prop} {f : α → Except ε γ}
    {g : β → Except ε δ} (step : ∀ x y c, R x y → f x = .ok c → ∃ d, g y = .ok d ∧ S c d)
    {xs : List α} {ys : List β} {cs : List γ} (h : List.Forall₂ R xs ys)
    (read : xs.mapM f = .ok cs) : ∃ ds, ys.mapM g = .ok ds ∧ List.Forall₂ S cs ds := by
  induction h generalizing cs with
  | nil =>
    cases read
    exact ⟨[], rfl, .nil⟩
  | cons hR _ ih =>
    simp only [List.mapM_cons, bind_eq_ok_iff, pure_eq_ok_iff] at read
    obtain ⟨c, hc, cs, hcs, rfl⟩ := read
    obtain ⟨d, hd, hS⟩ := step _ _ c hR hc
    obtain ⟨ds, hds, hSs⟩ := ih hcs
    refine ⟨d :: ds, ?_, .cons hS hSs⟩
    rw [List.mapM_cons, hd, hds]
    rfl

theorem Matched.mapM {R : α → β → Prop} {S : γ → δ → Prop} {f : α → Except ε γ}
    {g : β → Except ε δ} (step : ∀ x y c, R x y → f x = .ok c → ∃ d, g y = .ok d ∧ S c d)
    {xs : List α} {ys : List β} {cs : List γ} (h : Matched R xs ys) (read : xs.mapM f = .ok cs) :
    ∃ ds, ys.mapM g = .ok ds ∧ Matched S cs ds := by
  obtain ⟨zs, perm, hzs⟩ := h
  obtain ⟨ws, hws, hcs⟩ := mapM_perm perm read
  obtain ⟨ds, hds, hS⟩ := mapM_forall₂ step hzs hws
  exact ⟨ds, hds, ws, hcs, hS⟩

theorem Matched.map {R : α → β → Prop} {S : γ → δ → Prop} {f : α → γ} {g : β → δ} {xs : List α}
    {ys : List β} (h : Matched R xs ys) (step : ∀ x y, R x y → S (f x) (g y)) :
    Matched S (xs.map f) (ys.map g) := by
  obtain ⟨zs, perm, hzs⟩ := h
  refine ⟨zs.map f, perm.map f, ?_⟩
  rw [List.forall₂_map_left_iff, List.forall₂_map_right_iff]
  exact hzs.imp step

theorem Matched.map_eq_perm {R : α → β → Prop} {f : α → γ} {g : β → γ} {xs : List α} {ys : List β}
    (h : Matched R xs ys) (same : ∀ x y, R x y → f x = g y) : (xs.map f).Perm (ys.map g) := by
  obtain ⟨zs, perm, hzs⟩ := h
  have aligned : zs.map f = ys.map g := map_eq_of_forall₂ (hzs.imp same)
  exact aligned ▸ perm.map f

end Matched
section Alike
variable {m : Type → Type} [Monad m] {R : α → β → Prop} {f : α → m γ} {g : β → m γ}

theorem option_mapM_congr {x : Option α} {y : Option β} (h : Option.Rel R x y)
    (step : ∀ x y, R x y → f x = g y) : x.mapM f = y.mapM g := by
  cases h with
  | none => rfl
  | some related => rw [Option.mapM_some, Option.mapM_some, step _ _ related]

theorem mapM_congr [LawfulMonad m] {xs : List α} {ys : List β} (h : List.Forall₂ R xs ys)
    (step : ∀ x y, R x y → f x = g y) : xs.mapM f = ys.mapM g := by
  induction h with
  | nil => rfl
  | cons head _ ih => rw [List.mapM_cons, List.mapM_cons, step _ _ head, ih]

theorem option_mapM_bind {f : α → Option β} {g : β → Option γ} (xs : List α) :
    (xs.mapM f).bind (·.mapM g) = xs.mapM fun x => (f x).bind g := by
  induction xs with
  | nil => rfl
  | cons x xs ih =>
    rw [List.mapM_cons, List.mapM_cons, ← ih]
    cases f x with
    | none => rfl
    | some y => cases xs.mapM f <;> cases g y <;> simp

theorem option_mapM_then {f : α → Option β} {g : β → γ} (xs : List α) :
    (xs.mapM f).map (List.map g) = xs.mapM fun x => (f x).map g := by
  induction xs with
  | nil => rfl
  | cons x xs ih =>
    rw [List.mapM_cons, List.mapM_cons, ← ih]
    cases f x with
    | none => rfl
    | some y => cases xs.mapM f <;> simp

theorem option_mapM_rel {f : α → Option γ} {g : β → Option δ} {S : γ → δ → Prop}
    (step : ∀ x y, R x y → Option.Rel S (f x) (g y)) {xs : List α} {ys : List β}
    (h : List.Forall₂ R xs ys) : Option.Rel (List.Forall₂ S) (xs.mapM f) (ys.mapM g) := by
  induction h with
  | nil => exact .some .nil
  | @cons x y xs ys head _ ih =>
    rw [List.mapM_cons, List.mapM_cons]
    have first := step x y head
    generalize f x = c, g y = d at first
    generalize xs.mapM f = cs, ys.mapM g = ds at ih
    cases first with
    | none => exact .none
    | some first =>
      cases ih with
      | none => exact .none
      | some rest => exact .some (.cons first rest)

theorem find?_rel {p : α → Bool} {q : β → Bool} (same : ∀ x y, R x y → p x = q y) {xs : List α}
    {ys : List β} (h : List.Forall₂ R xs ys) : Option.Rel R (xs.find? p) (ys.find? q) := by
  induction h with
  | nil => exact .none
  | @cons x y xs ys head _ ih =>
    rw [List.find?_cons, List.find?_cons, ← same x y head]
    split
    · exact .some head
    · exact ih

end Alike
end Workload
