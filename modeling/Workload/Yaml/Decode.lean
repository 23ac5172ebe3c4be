import Workload.Yaml.Node
import Workload.Yaml.Resolve
import Workload.Codec.Scalar

/-! Decoding a YAML node into typed values. Collections may nest to a certain depth, and references
may be followed so many times for each event of the document; both limits bound the work. -/
namespace Workload.Yaml

def maxDepth : Nat := 128
def maxFollows : Nat := 100

structure Scope where
  document : Document
  depth : Nat := maxDepth

/-- A decoder counts the references followed so far, and fails without a reason. -/
abbrev Decode (α : Type) := ReaderT Scope (StateT Nat Option) α

namespace Decode

def fail : Decode α := fun _ _ => none

def ofOption : Option α → Decode α
  | some a => pure a
  | none => fail

def within (d : Decode α) : Decode α := fun s =>
  match s.depth with
  | 0 => fail s
  | depth + 1 => d { s with depth }

def follow : Node → Decode Node
  | .reference number => fun s used =>
    if used < s.document.size * maxFollows then
      (s.document.anchors.node? number).map (·, used + 1)
    else none
  | n => pure n

def string (n : Node) : Decode String := do
  match ← follow n with
  | .scalar _ text _ => pure text
  | _ => fail

def bool (n : Node) : Decode Bool := do
  match ← follow n with
  | .scalar tag text style =>
    if style = .plain ∨ (style = .literal ∧ tag = some (.core "bool")) then
      ofOption (boolOfText? text)
    else fail
  | _ => fail

/-- A scalar with no text at all counts as an empty collection. -/
def list (item : Node → Decode α) (n : Node) : Decode (List α) := do
  match ← follow n with
  | .sequence _ items => within (items.mapM item)
  | .scalar _ "" .plain => pure []
  | _ => fail

def entries (n : Node) (body : List (String × Node) → Decode α) : Decode α := do
  match ← follow n with
  | .mapping _ es => within do
    let es ← es.mapM fun e => do return (← string e.1, e.2)
    body es
  | .scalar _ "" .plain => body []
  | _ => fail

def pairs (value : Node → Decode α) (n : Node) : Decode (List (String × α)) :=
  entries n fun es => es.mapM fun e => do return (e.1, ← value e.2)

def dict (value : Node → Decode α) (n : Node) : Decode (Dict α) :=
  Dict.ofList <$> pairs value n

/-- A plain scalar that is empty or null is nothing. -/
def optional (value : Node → Decode α) (n : Node) : Decode (Option α) := do
  let n ← follow n
  match n with
  | .scalar none text .plain =>
    if text.isEmpty || isNullText text then pure none else some <$> value n
  | .scalar (some tag) text .plain =>
    if tag ≠ .core "null" then some <$> value n
    else if isNullText text then pure none
    else fail
  | _ => some <$> value n

abbrev Fields := List (String × Node)

def record (names : List String) (body : Fields → Decode α) (n : Node) : Decode α :=
  entries n fun es =>
    let known := es.filter (names.contains ·.1)
    if (known.map (·.1)).Nodup then body known else fail

namespace Fields

def required (fs : Fields) (name : String) (value : Node → Decode α) : Decode α :=
  match fs.lookup name with
  | some n => value n
  | none => fail

def withDefault (fs : Fields) (name : String) (value : Node → Decode α) (default : α) : Decode α :=
  match fs.lookup name with
  | some n => value n
  | none => pure default

def optional (fs : Fields) (name : String) (value : Node → Decode α) : Decode (Option α) :=
  fs.withDefault name (Decode.optional value) none

def listOf (fs : Fields) (name : String) (item : Node → Decode α) : Decode (List α) :=
  fs.withDefault name (Decode.list item) []

def dictOf (fs : Fields) (name : String) (value : Node → Decode α) : Decode (Dict α) :=
  fs.withDefault name (Decode.dict value) ∅

def flag (fs : Fields) (name : String) : Decode Bool := fs.withDefault name Decode.bool false

end Fields

def localName? (tag : Option Tag) : Option String := tag.bind Tag.localName?

/-- A scalar, or a note of which collection stands in its place. A local tag that has a name is an
error, and so is an integer of more than 64 bits. -/
def scalar (n : Node) : Decode Scalar := do
  match ← follow n with
  | .scalar tag text style =>
    if (localName? tag).isSome then fail
    else ofOption ((valueOfScalar? tag text style).bind Scalar.ofValue?)
  | .sequence tag _ =>
    if (localName? tag).isSome then fail
    else within (pure (.unsupported .sequence))
  | .mapping tag _ =>
    if (localName? tag).isSome then fail
    else within (pure (.unsupported .mapping))
  | .reference _ => fail

def distinctKeys : List (Value × Value) → Bool
  | [] => true
  | (k, _) :: es => !es.any (fun e => k.same e.1) && distinctKeys es

def underTag (tag : Option Tag) (v : Value) : Value :=
  (localName? tag).elim v fun name => .tagged name v

/-- The generic value of a node, nested no deeper than the first argument allows. -/
def valueWithin : Nat → Node → Decode Value
  | depth, n => do
    match ← follow n with
    | .scalar tag text style => return underTag tag (← ofOption (valueOfScalar? tag text style))
    | .sequence tag items =>
      match depth with
      | 0 => fail
      | depth + 1 => return underTag tag (.list (← items.mapM (valueWithin depth)))
    | .mapping tag es =>
      match depth with
      | 0 => fail
      | depth + 1 =>
        let es ← es.mapM fun e => do return (← valueWithin depth e.1, ← valueWithin depth e.2)
        if distinctKeys es then return underTag tag (.mapping es) else fail
    | .reference _ => fail

def value (n : Node) : Decode Value := fun s => valueWithin s.depth n s

def run (d : Document) (default : α) (decode : Node → Decode α) : Option α :=
  match d.root with
  | none => some default
  | some n => (decode n { document := d } 0).map (·.1)

end Decode
end Workload.Yaml
