import Workload.Yaml.Token

/-! The structure of a YAML document as a flat list of events, read off the tokens. -/
namespace Workload.Yaml

inductive Event where
  | reference (name : String)
  | scalar (anchor : Option String) (tag : Option Tag) (text : String) (style : ScalarStyle)
  | sequenceStart (anchor : Option String) (tag : Option Tag)
  | sequenceEnd
  | mappingStart (anchor : Option String) (tag : Option Tag)
  | mappingEnd
deriving DecidableEq, Repr

abbrev Handles := List (String × Tag)

def Handles.standard : Handles := [("!", .ofString "!"), ("!!", .core "")]

namespace Event

def emptyScalar : Event := .scalar none none "" .plain

def properties? (handles : Handles) (ts : List Token) :
    Option (Option String × Option Tag × List Token) := do
  let (anchor, tag, ts) := match ts with
    | .anchor a :: .tag h r :: ts | .tag h r :: .anchor a :: ts => (some a, some (h, r), ts)
    | .anchor a :: ts => (some a, none, ts)
    | .tag h r :: ts => (none, some (h, r), ts)
    | ts => (none, none, ts)
  let tag ← match tag with
    | none => some none
    | some ("", rest) => some (some rest)
    | some (handle, rest) => (handles.lookup handle).map fun meaning => some (meaning ++ rest)
  return (anchor, tag, ts)

/-! Tokens before which an item, a key or a value is empty. -/

def afterItem : List Token := [.blockEntry, .blockEnd]
def afterIndentlessItem : List Token := [.blockEntry, .key, .value, .blockEnd]
def afterEntryPart : List Token := [.key, .value, .blockEnd]
def afterFlowItem : List Token := [.flowEntry, .flowSequenceEnd]
def afterFlowKey : List Token := [.value, .flowEntry, .flowMappingEnd]
def afterFlowValue : List Token := [.flowEntry, .flowMappingEnd]

def isAhead (stops ts : List Token) : Bool := ts.head?.any stops.contains

/-- The events of a part of a document in reverse, and the tokens after it. -/
abbrev Partial := Option (List Event × List Token)

mutual

/-- A node. Block collections may start it only in block context, and a sequence without indentation
only as a key or value of a block mapping. -/
def node? (handles : Handles) (block indentless : Bool) :
    Nat → List Event → List Token → Partial
  | 0, _, _ => none
  | _ + 1, es, .reference name :: ts => some (.reference name :: es, ts)
  | fuel + 1, es, ts => do
    let (anchor, tag, ts) ← properties? handles ts
    match ts with
    | .blockEntry :: _ =>
      if indentless then indentlessItems? handles fuel (.sequenceStart anchor tag :: es) ts
      else if anchor.isSome || tag.isSome then some (.scalar anchor tag "" .plain :: es, ts)
      else none
    | .scalar text style :: ts => some (.scalar anchor tag text style :: es, ts)
    | .flowSequenceStart :: ts => flowItems? handles true fuel (.sequenceStart anchor tag :: es) ts
    | .flowMappingStart :: ts => flowEntries? handles true fuel (.mappingStart anchor tag :: es) ts
    | t :: rest =>
      if block && t == .blockSequenceStart then
        blockItems? handles fuel (.sequenceStart anchor tag :: es) rest
      else if block && t == .blockMappingStart then
        blockEntries? handles fuel (.mappingStart anchor tag :: es) rest
      else if anchor.isSome || tag.isSome then some (.scalar anchor tag "" .plain :: es, t :: rest)
      else none
    | [] => none

def blockItems? (handles : Handles) : Nat → List Event → List Token → Partial
  | 0, _, _ => none
  | fuel + 1, es, .blockEntry :: ts =>
    if isAhead afterItem ts then blockItems? handles fuel (emptyScalar :: es) ts
    else do
      let (es, ts) ← node? handles true false fuel es ts
      blockItems? handles fuel es ts
  | _ + 1, es, .blockEnd :: ts => some (.sequenceEnd :: es, ts)
  | _ + 1, _, _ => none

def indentlessItems? (handles : Handles) : Nat → List Event → List Token → Partial
  | 0, _, _ => none
  | fuel + 1, es, .blockEntry :: ts =>
    if isAhead afterIndentlessItem ts then indentlessItems? handles fuel (emptyScalar :: es) ts
    else do
      let (es, ts) ← node? handles true false fuel es ts
      indentlessItems? handles fuel es ts
  | _ + 1, es, ts => some (.sequenceEnd :: es, ts)

def blockEntries? (handles : Handles) : Nat → List Event → List Token → Partial
  | 0, _, _ => none
  | fuel + 1, es, .key :: ts => do
    let (es, ts) ←
      if isAhead afterEntryPart ts then some (emptyScalar :: es, ts)
      else node? handles true true fuel es ts
    blockValue? handles fuel es ts
  | _ + 1, es, .blockEnd :: ts => some (.mappingEnd :: es, ts)
  | _ + 1, _, _ => none

def blockValue? (handles : Handles) : Nat → List Event → List Token → Partial
  | 0, _, _ => none
  | fuel + 1, es, .value :: ts =>
    if isAhead afterEntryPart ts then blockEntries? handles fuel (emptyScalar :: es) ts
    else do
      let (es, ts) ← node? handles true true fuel es ts
      blockEntries? handles fuel es ts
  | fuel + 1, es, ts => blockEntries? handles fuel (emptyScalar :: es) ts

def flowItems? (handles : Handles) (first : Bool) : Nat → List Event → List Token → Partial
  | 0, _, _ => none
  | _ + 1, es, .flowSequenceEnd :: ts => some (.sequenceEnd :: es, ts)
  | fuel + 1, es, ts => do
    let ts ← if first then some ts else match ts with
      | .flowEntry :: ts => some ts
      | _ => none
    match ts with
    | .flowSequenceEnd :: ts => some (.sequenceEnd :: es, ts)
    | .key :: ts =>
      let (es, ts) ← flowPair? handles fuel (.mappingStart none none :: es) ts
      flowItems? handles false fuel es ts
    | ts =>
      let (es, ts) ← node? handles false false fuel es ts
      flowItems? handles false fuel es ts

/-- The one entry of a mapping inside a flow sequence. A token right after its key mark that cannot
start a node is passed over. -/
def flowPair? (handles : Handles) : Nat → List Event → List Token → Partial
  | 0, _, _ => none
  | fuel + 1, es, ts => do
    let (es, ts) ←
      if isAhead (.value :: afterFlowItem) ts then some (emptyScalar :: es, ts.drop 1)
      else node? handles false false fuel es ts
    match ts with
    | .value :: ts =>
      if isAhead afterFlowItem ts then some (.mappingEnd :: emptyScalar :: es, ts)
      else do
        let (es, ts) ← node? handles false false fuel es ts
        some (.mappingEnd :: es, ts)
    | ts => some (.mappingEnd :: emptyScalar :: es, ts)

def flowEntries? (handles : Handles) (first : Bool) : Nat → List Event → List Token → Partial
  | 0, _, _ => none
  | _ + 1, es, .flowMappingEnd :: ts => some (.mappingEnd :: es, ts)
  | fuel + 1, es, ts => do
    let ts ← if first then some ts else match ts with
      | .flowEntry :: ts => some ts
      | _ => none
    match ts with
    | .flowMappingEnd :: ts => some (.mappingEnd :: es, ts)
    | .key :: ts =>
      let (es, ts) ←
        if isAhead afterFlowKey ts then some (emptyScalar :: es, ts)
        else node? handles false false fuel es ts
      flowValue? handles fuel es ts
    | ts =>
      let (es, ts) ← node? handles false false fuel es ts
      flowEntries? handles false fuel (emptyScalar :: es) ts

def flowValue? (handles : Handles) : Nat → List Event → List Token → Partial
  | 0, _, _ => none
  | fuel + 1, es, .value :: ts =>
    if isAhead afterFlowValue ts then flowEntries? handles false fuel (emptyScalar :: es) ts
    else do
      let (es, ts) ← node? handles false false fuel es ts
      flowEntries? handles false fuel es ts
  | fuel + 1, es, ts => flowEntries? handles false fuel (emptyScalar :: es) ts

end

/-- The directives at the start of a document: at most one version, which is 1.1 or 1.2, and each
handle once. -/
def directives? (versioned : Bool) (handles : Handles) : List Token → Option (Handles × List Token)
  | .version major minor :: ts =>
    if versioned ∨ major ≠ 1 ∨ (minor ≠ 1 ∧ minor ≠ 2) then none
    else directives? true handles ts
  | .handle name meaning :: ts =>
    if (handles.lookup name).isSome then none
    else directives? versioned (handles ++ [(name, meaning)]) ts
  | ts => some (handles ++ Handles.standard, ts)

def endsStream : List Token → Bool
  | .documentEnd :: ts => endsStream ts
  | [.streamEnd] => true
  | _ => false

def startsEmpty : List Token → Bool
  | .version _ _ :: _ | .handle _ _ :: _ | .documentStart :: _ | .documentEnd :: _
  | .streamEnd :: _ => true
  | _ => false

/-- The events of a stream of one document; none at all for a stream of no documents. -/
def ofTokens? (ts : List Token) : Option (List Event) := do
  if ts = [.streamEnd] then return []
  let fuel := 4 * ts.length + 8
  let (es, ts) ← match ts with
    | .version _ _ :: _ | .handle _ _ :: _ | .documentStart :: _ =>
      match ← directives? false [] ts with
      | (handles, .documentStart :: ts) =>
        if startsEmpty ts then some ([emptyScalar], ts)
        else node? handles true false fuel [] ts
      | _ => none
    | ts => node? Handles.standard true false fuel [] ts
  if endsStream ts then return es.reverse else none

end Event
end Workload.Yaml
