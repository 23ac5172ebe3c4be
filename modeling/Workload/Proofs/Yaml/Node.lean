import Workload.Yaml.Node

/-! A node without anchors and references is read back from its events. -/
namespace Workload.Yaml
namespace Node

def word (text : String) : Node := .scalar none text .plain

def quoted (text : String) : Node := .scalar none text .singleQuoted

mutual

/-- No reference stands in the node. -/
def isTree : Node → Bool
  | .scalar _ _ _ => true
  | .sequence _ items => areTrees items
  | .mapping _ entries => haveTrees entries
  | .reference _ => false

def areTrees : List Node → Bool
  | [] => true
  | n :: ns => n.isTree && areTrees ns

def haveTrees : List (Node × Node) → Bool
  | [] => true
  | (k, v) :: es => k.isTree && v.isTree && haveTrees es

end

mutual

def events : Node → List Event
  | .scalar tag text style => [.scalar none tag text style]
  | .sequence tag items => .sequenceStart none tag :: (itemEvents items ++ [.sequenceEnd])
  | .mapping tag entries => .mappingStart none tag :: (entryEvents entries ++ [.mappingEnd])
  | .reference _ => []

def itemEvents : List Node → List Event
  | [] => []
  | n :: ns => n.events ++ itemEvents ns

def entryEvents : List (Node × Node) → List Event
  | [] => []
  | (k, v) :: es => k.events ++ v.events ++ entryEvents es

end

section Steps
variable {fuel : Nat} {a : Anchors} {n : Node}

theorem length_events_pos (tree : n.isTree) : 0 < n.events.length := by
  cases n with
  | scalar | sequence | mapping => exact Nat.succ_pos _
  | reference => cases tree

theorem readItems?_events (tree : n.isTree) (items : List Node) (es : List Event) :
    readItems? (fuel + 1) a items (n.events ++ es) =
      (read? fuel a (n.events ++ es)).bind fun r => readItems? fuel r.2.1 (r.1 :: items) r.2.2 := by
  cases n with
  | scalar | sequence | mapping => rfl
  | reference => cases tree

theorem readEntries?_events (tree : n.isTree) (entries : List (Node × Node)) (es : List Event) :
    readEntries? (fuel + 1) a entries (n.events ++ es) =
      (read? fuel a (n.events ++ es)).bind fun k => (read? fuel k.2.1 k.2.2).bind fun v =>
        readEntries? fuel v.2.1 ((k.1, v.1) :: entries) v.2.2 := by
  cases n with
  | scalar | sequence | mapping => rfl
  | reference => cases tree

end Steps

/-! A step takes an event, and the end of a collection is one more. -/

mutual

theorem read?_events (n : Node) (tree : n.isTree) (a : Anchors) (rest : List Event) (fuel : Nat)
    (enough : n.events.length ≤ fuel) : read? fuel a (n.events ++ rest) = some (n, a, rest) := by
  cases fuel with
  | zero => exact absurd enough (Nat.not_le_of_lt (length_events_pos tree))
  | succ fuel =>
    cases n with
    | scalar tag text style => rfl
    | sequence tag items =>
      have enough : (itemEvents items).length < fuel := by
        simp [events] at enough
        omega
      have read := readItems?_itemEvents items tree a [] rest fuel enough
      rw [events, List.cons_append, List.append_assoc]
      exact congrArg (Option.bind · _) read
    | mapping tag entries =>
      have enough : (entryEvents entries).length < fuel := by
        simp [events] at enough
        omega
      have read := readEntries?_entryEvents entries tree a [] rest fuel enough
      rw [events, List.cons_append, List.append_assoc]
      exact congrArg (Option.bind · _) read
    | reference number => cases tree

theorem readItems?_itemEvents (ns : List Node) (trees : areTrees ns) (a : Anchors)
    (items : List Node) (rest : List Event) (fuel : Nat) (enough : (itemEvents ns).length < fuel) :
    readItems? fuel a items (itemEvents ns ++ .sequenceEnd :: rest) =
      some (items.reverse ++ ns, a, rest) := by
  obtain ⟨fuel, rfl⟩ := Nat.exists_eq_add_one_of_ne_zero (Nat.ne_zero_of_lt enough)
  cases ns with
  | nil => simp [itemEvents, readItems?]
  | cons n ns =>
    rw [areTrees, Bool.and_eq_true] at trees
    have here := length_events_pos trees.1
    rw [itemEvents, List.length_append] at enough
    have first := read?_events n trees.1 a (itemEvents ns ++ .sequenceEnd :: rest) fuel (by omega)
    have others := readItems?_itemEvents ns trees.2 a (n :: items) rest fuel (by omega)
    rw [itemEvents, List.append_assoc, readItems?_events trees.1, first, Option.bind_some, others,
      List.reverse_cons, List.append_assoc, List.singleton_append]

theorem readEntries?_entryEvents (es : List (Node × Node)) (trees : haveTrees es) (a : Anchors)
    (entries : List (Node × Node)) (rest : List Event) (fuel : Nat)
    (enough : (entryEvents es).length < fuel) :
    readEntries? fuel a entries (entryEvents es ++ .mappingEnd :: rest) =
      some (entries.reverse ++ es, a, rest) := by
  obtain ⟨fuel, rfl⟩ := Nat.exists_eq_add_one_of_ne_zero (Nat.ne_zero_of_lt enough)
  cases es with
  | nil => simp [entryEvents, readEntries?]
  | cons e es =>
    obtain ⟨k, v⟩ := e
    rw [haveTrees, Bool.and_eq_true, Bool.and_eq_true] at trees
    obtain ⟨⟨key, value⟩, trees⟩ := trees
    have here := length_events_pos key
    rw [entryEvents, List.length_append, List.length_append] at enough
    have first := read?_events k key a (v.events ++ (entryEvents es ++ .mappingEnd :: rest)) fuel
      (by omega)
    have second := read?_events v value a (entryEvents es ++ .mappingEnd :: rest) fuel (by omega)
    have others := readEntries?_entryEvents es trees a ((k, v) :: entries) rest fuel (by omega)
    rw [entryEvents, List.append_assoc, List.append_assoc, readEntries?_events key, first,
      Option.bind_some, second, Option.bind_some, others, List.reverse_cons, List.append_assoc,
      List.singleton_append]

end

end Node

theorem Token.scan?_ofList (cs : List Char) : Token.scan? (String.ofList cs) =
    if cs.all isAllowed then Lexer.run (cs.length + 1) { cursor := { rest := cs } } else none := by
  rw [scan?, String.toList_ofList]

namespace Document

theorem ofEvents?_events {n : Node} (tree : n.isTree) :
    ofEvents? n.events = some ⟨some n, {}, n.events.length⟩ := by
  have nonempty : n.events.isEmpty = false := by
    rw [List.isEmpty_eq_false_iff]
    exact List.ne_nil_of_length_pos (Node.length_events_pos tree)
  have read := n.read?_events tree {} [] (2 * n.events.length + 2) (by omega)
  rw [List.append_nil] at read
  rw [ofEvents?, nonempty, read]
  rfl

theorem parse?_of_events {text : String} {n : Node} {size : Nat} (tree : n.isTree)
    (length : n.events.length = size)
    (listed : (Token.scan? text).bind Event.ofTokens? = some n.events) :
    parse? text = some ⟨some n, {}, size⟩ := by
  obtain ⟨ts, scanned, listed⟩ := Option.bind_eq_some_iff.1 listed
  have read := ofEvents?_events tree
  rw [length] at read
  exact Option.bind_eq_some_iff.2 ⟨ts, scanned, Option.bind_eq_some_iff.2 ⟨_, listed, read⟩⟩

end Document
end Workload.Yaml
