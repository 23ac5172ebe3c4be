import Workload.Codec.Pairs
import Workload.Model.Basic

/-! Build instructions: a directory, or an object with `context`, `dockerfile` and `args`. -/
namespace Workload

structure BuildSection where
  context : Option String := none
  dockerfile : Option String := none
  args : Option Pairs := none
deriving DecidableEq

namespace BuildSection

def optional (es : List (String × Value)) (name : String) (decode : Value → Option α) :
    Option (Option α) :=
  match es.lookup name with
  | none | some .null => some none
  | some v => (decode v).map some

def fieldNames : List String := ["context", "dockerfile", "args"]

/-- The fields of an object; in JSON also those of an array in their order. -/
def entries? (dialect : Dialect) (v : Value) : Option (List (String × Value)) :=
  match dialect, v.untagged with
  | .json, .list xs => if xs.length ≤ 3 then some (fieldNames.zip xs) else none
  | _, v => v.stringEntries? dialect

def ofValue? (dialect : Dialect) (v : Value) : Option BuildSection := do
  let es ← entries? dialect v
  let known := es.filter (fieldNames.contains ·.1)
  if ¬ (known.map (·.1)).Nodup then none
  return {
    context := ← optional known "context" fun v => (v.string? dialect).toOption
    dockerfile := ← optional known "dockerfile" fun v => (v.string? dialect).toOption
    args := ← optional known "args" Pairs.nested? }

def toBuild (s : BuildSection) : Except FieldError Build := do
  let args ← match s.args with
    | some pairs => pairs.toDict
    | none => .ok ∅
  return { context := s.context.getD "", dockerfile := s.dockerfile, args }

def ofBuild (b : Build) : BuildSection where
  context := if b.context.isEmpty then none else some b.context
  dockerfile := b.dockerfile
  args := if b.args.isEmpty then none else some (Pairs.ofDict b.args)

def toValue (s : BuildSection) : Value :=
  .mapping <| List.filterMap id [
    s.context.map fun c => (.string "context", .string c),
    s.dockerfile.map fun d => (.string "dockerfile", .string d),
    s.args.map fun p => (.string "args", p.toValue)]

def toJson (s : BuildSection) : Json := Json.compactObject [
  ("context", s.context.map .string),
  ("dockerfile", s.dockerfile.map .string),
  ("args", s.args.map Pairs.toJson)]

end BuildSection

namespace Build

def decode (dialect : Dialect) (v : Value) : Except FieldError Build :=
  match BuildSection.ofValue? dialect v with
  | some s => s.toBuild
  | none =>
    match v.string? dialect with
    | .ok context => .ok { context }
    | .error found => .error (.unsupportedShape "a build object or a directory string" found)

def encode (b : Build) : BuildSection := .ofBuild b

end Build
end Workload
