import Workload.Codec.Scalar
import Workload.Text.Split

/-! Tables of texts, written as a mapping or as a list of `KEY=value` strings. -/
namespace Workload

inductive Pairs where
  | mapping (entries : Dict Scalar)
  | list (items : List String)
deriving DecidableEq

namespace Pairs

/-- The key and the value of one `KEY=value` string; without `=` it is a key with no value. -/
def splitPair (s : String) : String × String :=
  match Text.splitFirst '=' s.toList with
  | some (key, value) => (String.ofList key, String.ofList value)
  | none => (s, "")

def ofList (items : List String) : Dict String := Dict.ofList (items.map splitPair)

def toList (d : Dict String) : List String := d.entries.map fun (k, v) => k ++ "=" ++ v

/-- The texts of a table of scalars; the first key that has none is to blame. -/
def texts (d : Dict Scalar) : Except FieldError (Dict String) := d.mapM fun _ s => s.toText

def toDict : Pairs → Except FieldError (Dict String)
  | mapping entries => texts entries
  | list items => .ok (ofList items)

def ofDict (d : Dict String) : Pairs := mapping (d.map .text)

def scalars? (dialect : Dialect) (v : Value) : Option (Dict Scalar) := do
  let es ← v.stringEntries? dialect
  let es ← es.mapM fun e => (Scalar.ofValue? e.2).map (e.1, ·)
  return Dict.ofList es

def decode (dialect : Dialect) (v : Value) : Except FieldError (Dict String) :=
  match scalars? dialect v with
  | some d => texts d
  | none =>
    match v.strings? dialect with
    | .ok items => .ok (ofList items)
    | .error found =>
      .error (.unsupportedShape "a mapping or a list of KEY=value strings" found)

/-- Decodes a table inside another record, where a tag anywhere or a missing value spoils it. -/
def nested? (v : Value) : Option Pairs :=
  if v.hasTag then none else
    match v with
    | .mapping _ => (scalars? .json v).map mapping
    | .list _ => (v.strings? .json).toOption.map list
    | _ => none

def toValue : Pairs → Value
  | mapping entries => .mapping (entries.entries.map fun (k, s) => (.string k, s.toValue))
  | list items => .list (items.map .string)

def toJson : Pairs → Json
  | mapping entries => .object (entries.entries.map fun (k, s) => (k, s.toJson))
  | list items => Json.strings items

end Pairs
end Workload
