import Workload.Yaml.Decode
import Workload.Proofs.Yaml.Node
import Mathlib.Data.List.Forall2

/-! What a YAML document says at a node, and that decoders read just this. A decoder that succeeds
has been handed the entries or items of its node, one by one and in their order. -/
namespace Workload.Yaml

namespace Document

/-- The node itself, or the one it refers to. -/
def target? (d : Document) : Node → Option Node
  | .reference number => d.anchors.node? number
  | n => some n

def text? (d : Document) (n : Node) : Option String :=
  match d.target? n with
  | some (.scalar _ text _) => some text
  | _ => none

/-- The items of a sequence; a scalar without any text counts as an empty one. -/
def items? (d : Document) (n : Node) : Option (List Node) :=
  match d.target? n with
  | some (.sequence _ items) => some items
  | some (.scalar _ "" .plain) => some []
  | _ => none

def entries? (d : Document) (n : Node) : Option (List (String × Node)) :=
  match d.target? n with
  | some (.mapping _ es) => es.mapM fun e => (d.text? e.1).map (·, e.2)
  | some (.scalar _ "" .plain) => some []
  | _ => none

def field? (d : Document) (n : Node) (name : String) : Option Node :=
  (d.entries? n).bind (·.lookup name)

end Document

namespace Decode
variable {α β : Type} {s : Scope} {used used' : Nat}

theorem bind_eq_some_iff {d : Decode α} {f : α → Decode β} {r : β × Nat} :
    (d >>= f) s used = some r ↔ ∃ a used', d s used = some (a, used') ∧ f a s used' = some r := by
  have step : (d >>= f) s used = (d s used).bind fun x => f x.1 s x.2 := rfl
  rw [step, Option.bind_eq_some_iff]
  exact Prod.exists

theorem pure_eq_some_iff {a : α} {r : α × Nat} :
    (pure a : Decode α) s used = some r ↔ r = (a, used) := by
  have step : (pure a : Decode α) s used = some (a, used) := rfl
  rw [step, Option.some.injEq, eq_comm]

theorem target?_of_follow {n m : Node} (h : follow n s used = some (m, used')) :
    s.document.target? n = some m := by
  cases n with
  | reference number =>
    have step : follow (.reference number) s used =
        if used < s.document.size * maxFollows then
          (s.document.anchors.node? number).map (·, used + 1)
        else none := rfl
    rw [step] at h
    split at h
    · obtain ⟨found, hfound, heq⟩ := Option.map_eq_some_iff.1 h
      cases heq
      exact hfound
    · contradiction
  | scalar tag text style => cases h; rfl
  | sequence tag items => cases h; rfl
  | mapping tag es => cases h; rfl

theorem mapM_eq_some {f : α → Decode β} {xs : List α} {ys : List β}
    (h : xs.mapM f s used = some (ys, used')) :
    List.Forall₂ (fun x y => ∃ v w, f x s v = some (y, w)) xs ys := by
  induction xs generalizing ys used with
  | nil =>
    cases h
    exact .nil
  | cons x xs ih =>
    rw [List.mapM_cons, bind_eq_some_iff] at h
    obtain ⟨y, v, hy, h⟩ := h
    rw [bind_eq_some_iff] at h
    obtain ⟨ys', w, hys, done⟩ := h
    cases pure_eq_some_iff.1 done
    exact .cons ⟨used, v, hy⟩ (ih hys)

theorem text?_of_string {n : Node} {text : String} (h : string n s used = some (text, used')) :
    s.document.text? n = some text := by
  unfold string at h
  rw [bind_eq_some_iff] at h
  obtain ⟨m, v, hm, h⟩ := h
  unfold Document.text?
  rw [target?_of_follow hm]
  split at h
  · cases pure_eq_some_iff.1 h
    rfl
  · cases h

theorem within_eq_some {d : Decode α} {r : α × Nat} (h : within d s used = some r) :
    ∃ depth, d { s with depth } used = some r := by
  obtain ⟨document, depth⟩ := s
  cases depth with
  | zero => cases h
  | succ depth => exact ⟨depth, h⟩

theorem list_eq_some {item : Node → Decode α} {n : Node} {xs : List α}
    (h : list item n s used = some (xs, used')) :
    ∃ items, s.document.items? n = some items ∧ List.Forall₂ (fun m x =>
      ∃ depth v w, item m { s with depth } v = some (x, w)) items xs := by
  unfold list at h
  rw [bind_eq_some_iff] at h
  obtain ⟨m, v, hm, h⟩ := h
  unfold Document.items?
  rw [target?_of_follow hm]
  split at h
  · rename_i items
    obtain ⟨depth, read⟩ := within_eq_some h
    exact ⟨items, rfl, (mapM_eq_some read).imp fun _ _ ⟨v, w, hx⟩ => ⟨depth, v, w, hx⟩⟩
  · cases pure_eq_some_iff.1 h
    exact ⟨[], rfl, .nil⟩
  · cases h

theorem mapM_text? {es : List (Node × Node)} {xs : List (String × Node)}
    (h : es.mapM (m := Decode) (fun e => do return (← string e.1, e.2)) s used =
      some (xs, used')) :
    es.mapM (fun e => (s.document.text? e.1).map (·, e.2)) = some xs := by
  have keys := mapM_eq_some h
  clear h
  induction keys with
  | nil => rfl
  | @cons e x _ _ hx _ ih =>
    obtain ⟨v, w, hx⟩ := hx
    rw [bind_eq_some_iff] at hx
    obtain ⟨key, _, hkey, done⟩ := hx
    cases pure_eq_some_iff.1 done
    rw [List.mapM_cons, ih, text?_of_string hkey]
    rfl

theorem entries_eq_some {body : List (String × Node) → Decode α} {n : Node} {r : α × Nat}
    (h : entries n body s used = some r) :
    ∃ es depth v, s.document.entries? n = some es ∧ body es { s with depth } v = some r := by
  unfold entries at h
  rw [bind_eq_some_iff] at h
  obtain ⟨m, v, hm, h⟩ := h
  unfold Document.entries?
  rw [target?_of_follow hm]
  split at h
  · rename_i written
    obtain ⟨depth, h⟩ := within_eq_some h
    rw [bind_eq_some_iff] at h
    obtain ⟨es, w, hes, read⟩ := h
    have texts := mapM_text? hes
    exact ⟨es, depth, w, texts, read⟩
  · exact ⟨[], s.depth, v, rfl, h⟩
  · cases h

theorem pairs_eq_some {value : Node → Decode α} {n : Node} {xs : List (String × α)}
    (h : pairs value n s used = some (xs, used')) :
    ∃ es, s.document.entries? n = some es ∧ List.Forall₂ (fun e x => e.1 = x.1 ∧
      ∃ depth v w, value e.2 { s with depth } v = some (x.2, w)) es xs := by
  unfold pairs at h
  obtain ⟨es, depth, v, written, read⟩ := entries_eq_some h
  refine ⟨es, written, (mapM_eq_some read).imp ?_⟩
  rintro e x ⟨v, w, hx⟩
  rw [bind_eq_some_iff] at hx
  obtain ⟨a, _, ha, done⟩ := hx
  cases pure_eq_some_iff.1 done
  exact ⟨rfl, depth, v, w, ha⟩

theorem lookup_filter {names : List String} {es : List (String × Node)} {name : String}
    (h : name ∈ names) : (es.filter (names.contains ·.1)).lookup name = es.lookup name := by
  induction es with
  | nil => rfl
  | cons e es ih =>
    obtain ⟨key, n⟩ := e
    by_cases known : names.contains key
    · rw [List.filter_cons_of_pos (by simpa using known), List.lookup_cons, List.lookup_cons, ih]
    · have hne : (name == key) = false := by
        rw [beq_eq_false_iff_ne]
        rintro rfl
        exact known (by simpa using h)
      rw [List.filter_cons_of_neg (by simpa using known), List.lookup_cons, hne, ih]

/-- The decoder gives this value, after some number of references. -/
def Gives (s : Scope) (d : Decode α) (a : α) : Prop := ∃ used used', d s used = some (a, used')

/-- What holds of every value that the decoder gives. -/
def Yields (s : Scope) (d : Decode α) (p : α → Prop) : Prop := ∀ a, Gives s d a → p a

namespace Yields

protected theorem bind {d : Decode α} {f : α → Decode β} {p : β → Prop}
    (next : ∀ a, Gives s d a → Yields s (f a) p) : Yields s (d >>= f) p := by
  rintro b ⟨used, used', read⟩
  obtain ⟨a, v, ha, hb⟩ := bind_eq_some_iff.1 read
  exact next a ⟨used, v, ha⟩ b ⟨v, used', hb⟩

protected theorem pure {a : α} {p : α → Prop} (h : p a) : Yields s (pure a) p := by
  rintro b ⟨used, used', read⟩
  cases pure_eq_some_iff.1 read
  exact h

theorem record {names : List String} {body : Fields → Decode α} {n : Node} {p : α → Prop}
    (next : ∀ fs depth, (∀ name ∈ names, fs.lookup name = s.document.field? n name) →
      Yields { s with depth } (body fs) p) : Yields s (record names body n) p := by
  rintro a ⟨used, used', read⟩
  unfold Decode.record at read
  obtain ⟨es, depth, v, written, read⟩ := entries_eq_some read
  dsimp only at read
  split at read
  · refine next _ depth ?_ a ⟨v, used', read⟩
    intro name known
    unfold Document.field?
    rw [written, lookup_filter known]
    rfl
  · cases read

variable {fs : Fields} {name : String} {value : Node → Decode α} {p : α → Prop}

theorem withDefault {default : α} (absent : fs.lookup name = none → p default)
    (present : ∀ n, fs.lookup name = some n → Yields s (value n) p) :
    Yields s (fs.withDefault name value default) p := by
  unfold Fields.withDefault
  cases found : fs.lookup name with
  | none => exact .pure (absent found)
  | some n => exact present n found

theorem required (present : ∀ n, fs.lookup name = some n → Yields s (value n) p) :
    Yields s (fs.required name value) p := by
  unfold Fields.required
  cases found : fs.lookup name with
  | none =>
    rintro a ⟨used, used', read⟩
    cases read
  | some n => exact present n found

@[elab_as_elim] theorem of_run {d : Document} {decode : Node → Decode α} {default a : α}
    {motive : α → Prop} (read : run d default decode = some a)
    (absent : d.root = none → motive default)
    (present : ∀ n, d.root = some n → Yields { document := d } (decode n) motive) : motive a := by
  unfold run at read
  split at read
  · rename_i missing
    rw [← Option.some.inj read]
    exact absent missing
  · rename_i n root
    obtain ⟨⟨b, used⟩, decoded, rfl⟩ := Option.map_eq_some_iff.1 read
    exact present n root b ⟨0, used, decoded⟩

end Yields
end Decode
end Workload.Yaml
