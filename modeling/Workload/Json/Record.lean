import Workload.Json.Basic
import Workload.Dict
import Workload.Text.Numeral

/-! Decoding JSON into typed records. -/
namespace Workload.Json

def string? : Json → Option String
  | string s => some s
  | _ => none

def bool? : Json → Option Bool
  | bool b => some b
  | _ => none

def naturalBelow? (bound : Nat) : Json → Option Nat
  | number (.natural n) => if n.toNat < bound then some n.toNat else none
  | _ => none

def uint16? (v : Json) : Option UInt16 := (v.naturalBelow? UInt16.size).map .ofNat
def uint32? (v : Json) : Option UInt32 := (v.naturalBelow? UInt32.size).map .ofNat
def uint64? (v : Json) : Option UInt64 := (v.naturalBelow? UInt64.size).map .ofNat

def list? (item : Json → Option α) : Json → Option (List α)
  | array xs => xs.mapM item
  | _ => none

/-- Every member is decoded; of those with one key the last is kept. -/
def dict? (value : Json → Option α) : Json → Option (Dict α)
  | object ms => (ms.mapM fun m => (value m.2).map (m.1, ·)).map Dict.ofList
  | _ => none

def nullable? (value : Json → Option α) : Json → Option (Option α)
  | null => some none
  | v => (value v).map some

abbrev Fields := List (String × Json)

/-- A record is an object, in which other keys are ignored and a known key may stand only once, or
an array of its first fields in their order. -/
def record? (names : List String) : Json → Option Fields
  | object ms =>
    let known := ms.filter (names.contains ·.1)
    if (known.map (·.1)).Nodup then some known else none
  | array xs => if xs.length ≤ names.length then some (names.zip xs) else none
  | _ => none

namespace Fields

def required (fs : Fields) (name : String) (value : Json → Option α) : Option α :=
  (fs.lookup name).bind value

def withDefault (fs : Fields) (name : String) (value : Json → Option α) (default : α) : Option α :=
  match fs.lookup name with
  | some v => value v
  | none => some default

def optional (fs : Fields) (name : String) (value : Json → Option α) : Option (Option α) :=
  fs.withDefault name (nullable? value) none

def listOf (fs : Fields) (name : String) (item : Json → Option α) : Option (List α) :=
  fs.withDefault name (list? item) []

def dictOf (fs : Fields) (name : String) (value : Json → Option α) : Option (Dict α) :=
  fs.withDefault name (dict? value) ∅

def flag (fs : Fields) (name : String) : Option Bool := fs.withDefault name bool? false

end Fields

/-! Members of a written record; `none` leaves the member out. -/

def optionalMember (name : String) (write : α → Json) (value : Option α) : String × Option Json :=
  (name, value.map write)

def listMember (name : String) (write : α → Json) (xs : List α) : String × Option Json :=
  (name, if xs.isEmpty then none else some (array (xs.map write)))

def dictMember (name : String) (write : α → Json) (d : Dict α) : String × Option Json :=
  (name, if d.isEmpty then none else some (object (d.entries.map fun (k, v) => (k, write v))))

def member (name : String) (value : Json) : String × Option Json := (name, some value)

def flagMember (name : String) (value : Bool) : String × Option Json :=
  (name, if value then some (bool true) else none)

end Workload.Json
