import Workload.Number

/-! JSON documents. Objects keep their members as written, repeated keys included. -/
namespace Workload

inductive Json where
  | null
  | bool (b : Bool)
  | number (n : Number)
  | string (s : String)
  | array (items : List Json)
  | object (members : List (String × Json))
  /-- A value that is well formed but stands for nothing: a number beyond the binary range, or a
  text or key with half of a surrogate pair. It may be skipped but not decoded. -/
  | unreadable
deriving Inhabited, Repr

namespace Json

def natural (n : Nat) : Json := number (.natural (.ofNat n))

def compactObject (members : List (String × Option Json)) : Json :=
  object (members.filterMap fun (k, v) => v.map (k, ·))

def strings (xs : List String) : Json := array (xs.map string)

end Json
end Workload
