import Workload.Yaml.Event
import Workload.Yaml.Token.Lexer

/-! The node tree of a YAML document. -/
namespace Workload.Yaml

inductive Node where
  | scalar (tag : Option Tag) (text : String) (style : ScalarStyle)
  | sequence (tag : Option Tag) (items : List Node)
  | mapping (tag : Option Tag) (entries : List (Node × Node))
  | reference (number : Nat)
deriving Inhabited

/-- The anchors met so far. An anchor gets the number of different names before it, so after a name
has been used twice a number may be given twice; the later node then stands for both. -/
structure Anchors where
  numbers : List (String × Nat) := []
  /-- The serial of the node that holds each number, the latest first. -/
  serials : List (Nat × Nat) := []
  nodes : List (Nat × Node) := []

namespace Anchors

def define (a : Anchors) (name : String) : Anchors :=
  let number := a.numbers.length
  { a with
    numbers := (name, number) :: a.numbers.filter (·.1 ≠ name)
    serials := (number, a.serials.length) :: a.serials }

def enter (a : Anchors) (anchor : Option String) : Anchors := anchor.elim a a.define

def leave (a before : Anchors) (anchor : Option String) (n : Node) : Anchors :=
  if anchor.isSome then { a with nodes := (before.serials.length, n) :: a.nodes } else a

def node? (a : Anchors) (number : Nat) : Option Node :=
  (a.serials.lookup number).bind (a.nodes.lookup ·)

end Anchors

structure Document where
  root : Option Node
  anchors : Anchors
  size : Nat

namespace Node

mutual

def read? : Nat → Anchors → List Event → Option (Node × Anchors × List Event)
  | 0, _, _ => none
  | fuel + 1, a, e :: es =>
    match e with
    | .reference name => (a.numbers.lookup name).map fun n => (.reference n, a, es)
    | .scalar anchor tag text style =>
      let n := scalar tag text style
      some (n, (a.enter anchor).leave a anchor n, es)
    | .sequenceStart anchor tag => do
      let (items, a', es) ← readItems? fuel (a.enter anchor) [] es
      return (sequence tag items, a'.leave a anchor (sequence tag items), es)
    | .mappingStart anchor tag => do
      let (entries, a', es) ← readEntries? fuel (a.enter anchor) [] es
      return (mapping tag entries, a'.leave a anchor (mapping tag entries), es)
    | .sequenceEnd | .mappingEnd => none
  | _ + 1, _, [] => none

def readItems? : Nat → Anchors → List Node → List Event →
    Option (List Node × Anchors × List Event)
  | 0, _, _, _ => none
  | _ + 1, a, items, .sequenceEnd :: es => some (items.reverse, a, es)
  | fuel + 1, a, items, es => do
    let (n, a, es) ← read? fuel a es
    readItems? fuel a (n :: items) es

def readEntries? : Nat → Anchors → List (Node × Node) → List Event →
    Option (List (Node × Node) × Anchors × List Event)
  | 0, _, _, _ => none
  | _ + 1, a, entries, .mappingEnd :: es => some (entries.reverse, a, es)
  | fuel + 1, a, entries, es => do
    let (k, a, es) ← read? fuel a es
    let (v, a, es) ← read? fuel a es
    readEntries? fuel a ((k, v) :: entries) es

end

end Node

namespace Document

def ofEvents? (es : List Event) : Option Document :=
  if es.isEmpty then some ⟨none, {}, 1⟩
  else (Node.read? (2 * es.length + 2) {} es).map fun (n, a, _) => ⟨some n, a, es.length⟩

def parse? (text : String) : Option Document := do
  let ts ← Token.scan? text
  let es ← Event.ofTokens? ts
  ofEvents? es

end Document
end Workload.Yaml
