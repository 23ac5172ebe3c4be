import Workload.Decimal.Notation

/-! Numbers as documents hold them: 64-bit integers of either sign, and binary fractions. -/
namespace Workload

inductive Number where
  | natural (n : UInt64)
  | negative (n : Int64)
  | fraction (x : Binary64)
deriving DecidableEq, Repr

namespace Number

/-- Equality of values: an integer differs from a fraction, all NaN are one value, and so are
the two zeros. -/
def same : Number → Number → Bool
  | natural m, natural n => m == n
  | negative m, negative n => m == n
  | fraction x, fraction y => x == y || (x.isNaN && y.isNaN) || (x.isZero && y.isZero)
  | _, _ => false

def ofNat? (n : Nat) : Option Number := if n < UInt64.size then some (natural (.ofNat n)) else none

end Number
end Workload
