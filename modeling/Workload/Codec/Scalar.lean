import Workload.Error
import Workload.Value
import Workload.Text.Blank

/-! Lenient scalars. A number may be written as a number or as text, so a field is first read as
a scalar and interpreted once its container is known. -/
namespace Workload

inductive Collection where
  | sequence
  | mapping
deriving DecidableEq, Repr

def Collection.name : Collection → String
  | sequence => "a sequence"
  | mapping => "a mapping"

inductive Scalar where
  | int (n : UInt64)
  | text (s : String)
  | null
  | unsupported (found : Collection)
deriving DecidableEq, Repr

namespace Scalar

def ofBool (b : Bool) : Scalar := text (if b then "true" else "false")

def ofNumber : Number → Scalar
  | .natural n => int n
  | .negative n => text (String.ofList ('-' :: Text.digits n.toInt.natAbs))
  | .fraction x => text (String.ofList (Decimal.plain x))

/-- An application tag makes a value no scalar at all. -/
def ofValue? : Value → Option Scalar
  | .null => some null
  | .bool b => some (ofBool b)
  | .number n => some (ofNumber n)
  | .string s => some (text s)
  | .list _ => some (unsupported .sequence)
  | .mapping _ => some (unsupported .mapping)
  | .tagged _ _ => none

def ofJson? : Json → Option Scalar
  | .null => some null
  | .bool b => some (ofBool b)
  | .number n => some (ofNumber n)
  | .string s => some (text s)
  | .array _ => some (unsupported .sequence)
  | .object _ => some (unsupported .mapping)
  | .unreadable => none

def toText : Scalar → Except FieldError String
  | int n => .ok (numeral n.toNat)
  | text s => .ok s
  | null => .ok ""
  | unsupported found => .error (.unsupportedShape "a scalar" found.name)

def toUInt64 : Scalar → Except FieldError UInt64
  | int n => .ok n
  | text s =>
    match Text.uint64? (Text.trim s.toList) with
    | some n => .ok n
    | none => .error (.invalidNumber s)
  | null => .error (.invalidNumber "null")
  | unsupported found => .error (.unsupportedShape "a number" found.name)

def toNatBelow (bound : Nat) (s : Scalar) : Except FieldError Nat := do
  let n ← s.toUInt64
  if n.toNat < bound then .ok n.toNat else .error (.invalidNumber (numeral n.toNat))

def toUInt16 (s : Scalar) : Except FieldError UInt16 := (s.toNatBelow UInt16.size).map .ofNat
def toUInt32 (s : Scalar) : Except FieldError UInt32 := (s.toNatBelow UInt32.size).map .ofNat

def toJson : Scalar → Json
  | int n => .number (.natural n)
  | text s => .string s
  | null | unsupported _ => .null

def toValue : Scalar → Value
  | int n => .number (.natural n)
  | text s => .string s
  | null | unsupported _ => .null

end Scalar
end Workload
