import Workload.Json.Basic
import Workload.Dict
import Workload.Text.Quoted

/-! Generic document values: what is left of a node once its syntax is known but its type is not.
Fields that have more than one native shape are kept in this form and resolved later. -/
namespace Workload

inductive Value where
  | null
  | bool (b : Bool)
  | number (n : Number)
  | string (s : String)
  | list (items : List Value)
  | mapping (entries : List (Value × Value))
  | tagged (tag : String) (value : Value)
deriving Inhabited

/-- The document language a value was read from; it decides a few wordings and liberties. -/
inductive Dialect where
  | json
  | yaml
deriving DecidableEq, Repr

namespace Value

def untagged : Value → Value
  | tagged _ v => v.untagged
  | v => v

def describe (dialect : Dialect) : Value → String
  | null => match dialect with
    | .json => "null"
    | .yaml => "unit value"
  | bool b => "boolean \x60" ++ toString b ++ "\x60"
  | number n =>
    match n, dialect with
    | .natural n, _ => "integer \x60" ++ numeral n.toNat ++ "\x60"
    | .negative n, _ => "integer \x60-" ++ numeral n.toInt.natAbs ++ "\x60"
    | .fraction x, .json => "floating point \x60" ++ String.ofList (Decimal.compact x) ++ "\x60"
    | .fraction x, .yaml => "floating point \x60" ++ String.ofList (Decimal.pointed x) ++ "\x60"
  | string s => "string " ++ quotedText s
  | list _ => "sequence"
  | mapping _ => "map"
  | tagged _ _ => "enum"

def invalidType (dialect : Dialect) (v : Value) (expected : String) : String :=
  "invalid type: " ++ v.describe dialect ++ ", expected " ++ expected

def string? (dialect : Dialect) (v : Value) : Except String String :=
  match v.untagged with
  | string s => .ok s
  | v => .error (v.invalidType dialect "a string")

/-- A list, the error being that of its first bad item; an absent YAML value is an empty list. -/
def strings? (dialect : Dialect) (v : Value) : Except String (List String) :=
  match v.untagged with
  | list xs => xs.mapM (string? dialect)
  | null => match dialect with
    | .yaml => .ok []
    | .json => .error (null.invalidType .json "a sequence")
  | v => .error (v.invalidType dialect "a sequence")

def stringEntries? (dialect : Dialect) (v : Value) : Option (List (String × Value)) :=
  match v.untagged with
  | mapping es => es.mapM fun e => (e.1.string? dialect).toOption.map (·, e.2)
  | null => if dialect = .yaml then some [] else none
  | _ => none

mutual

def hasTag : Value → Bool
  | tagged _ _ => true
  | list xs => listHasTag xs
  | mapping es => entriesHaveTag es
  | _ => false

def listHasTag : List Value → Bool
  | [] => false
  | v :: vs => v.hasTag || listHasTag vs

def entriesHaveTag : List (Value × Value) → Bool
  | [] => false
  | (k, v) :: es => k.hasTag || v.hasTag || entriesHaveTag es

end

mutual

/-- Equality of values as mapping keys, blind to the order of entries. -/
def same : Value → Value → Bool
  | null, null => true
  | bool a, bool b => a == b
  | number m, number n => m.same n
  | string s, string t => s == t
  | list xs, list ys => sameItems xs ys
  | mapping es, mapping fs => es.length == fs.length && sameEntries es fs
  | tagged t v, tagged u w => t == u && v.same w
  | _, _ => false

def sameItems : List Value → List Value → Bool
  | [], [] => true
  | x :: xs, y :: ys => x.same y && sameItems xs ys
  | _, _ => false

def sameEntries : List (Value × Value) → List (Value × Value) → Bool
  | [], _ => true
  | (k, v) :: es, fs => fs.any (fun (k', v') => k.same k' && v.same v') && sameEntries es fs

end

mutual

/-- Objects list their keys in ascending order, each with its last value. -/
def ofJson : Json → Value
  | .null | .unreadable => null
  | .bool b => bool b
  | .number n => number n
  | .string s => string s
  | .array xs => list (ofItems xs)
  | .object ms => mapping ((Dict.ofList (ofMembers ms)).entries.map fun (k, v) => (string k, v))

def ofItems : List Json → List Value
  | [] => []
  | x :: xs => ofJson x :: ofItems xs

def ofMembers : List (String × Json) → List (String × Value)
  | [] => []
  | (k, v) :: ms => (k, ofJson v) :: ofMembers ms

end

end Value
end Workload
