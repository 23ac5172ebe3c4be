import Workload.Yaml.Tag

/-! The tokens of a YAML stream. -/
namespace Workload.Yaml

inductive ScalarStyle where
  | plain
  | singleQuoted
  | doubleQuoted
  | literal
  | folded
deriving DecidableEq, Repr

inductive Token where
  | streamEnd
  | version (major minor : Nat)
  | handle (name : String) (meaning : Tag)
  | documentStart
  | documentEnd
  | blockSequenceStart
  | blockMappingStart
  | blockEnd
  | flowSequenceStart
  | flowSequenceEnd
  | flowMappingStart
  | flowMappingEnd
  | blockEntry
  | flowEntry
  | key
  | value
  | reference (name : String)
  | anchor (name : String)
  /-- A tag by its handle, which is empty for a verbatim tag, and what follows it. -/
  | tag (handle : String) (rest : Tag)
  | scalar (text : String) (style : ScalarStyle)
deriving DecidableEq, Repr

end Workload.Yaml
