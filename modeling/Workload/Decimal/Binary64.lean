/-! Binary floating-point numbers of 64 bits, as data: a sign, a significand and a power of two.
Every operation is exact in natural numbers and rounds once, to the nearest representable
number, ties going to the even significand. -/
namespace Workload

structure Binary64 where
  bits : UInt64
deriving DecidableEq, Repr

namespace Binary64

def leastNormal : Nat := Nat.pow 2 52

def signBit : Nat := 2048 * leastNormal
def infinityBits : Nat := 2047 * leastNormal

def ofMagnitude (negative : Bool) (magnitude : Nat) : Binary64 :=
  ⟨UInt64.ofNat (magnitude + if negative then signBit else 0)⟩

def zero (negative : Bool) : Binary64 := ofMagnitude negative 0
def infinity (negative : Bool) : Binary64 := ofMagnitude negative infinityBits
def nan : Binary64 := ofMagnitude false (infinityBits + leastNormal / 2)

def isNegative (x : Binary64) : Bool := signBit ≤ x.bits.toNat
def magnitude (x : Binary64) : Nat := x.bits.toNat % signBit
def isFinite (x : Binary64) : Bool := x.magnitude < infinityBits
def isNaN (x : Binary64) : Bool := infinityBits < x.magnitude
def isZero (x : Binary64) : Bool := x.magnitude == 0

/-- The significand and the exponent of the power of two it is multiplied by. -/
def parts (x : Binary64) : Nat × Int :=
  let field := x.magnitude / leastNormal
  let low := x.magnitude % leastNormal
  if field = 0 then (low, -1074) else (low + leastNormal, Int.ofNat field - 1075)

/-- `n / d` rounded to an integer, a half going to the even neighbour. -/
def roundDiv (n d : Nat) : Nat :=
  let q := n / d
  let r := n % d
  if 2 * r < d then q else if d < 2 * r then q + 1 else q + q % 2

def ratioLog2 (n d : Nat) : Int :=
  let e := Int.ofNat n.log2 - Int.ofNat d.log2
  if n <<< (-e).toNat < d <<< e.toNat then e - 1 else e

/-- The number nearest to `n / d`; beyond the largest one it is infinity. -/
def ofRatio (negative : Bool) (n d : Nat) : Binary64 :=
  if n = 0 then zero negative else
    let q := max (ratioLog2 n d - 52) (-1074)
    let m := roundDiv (n <<< (-q).toNat) (d <<< q.toNat)
    ofMagnitude negative (min infinityBits ((q + 1074).toNat * leastNormal + m))

def ratio (x : Binary64) : Nat × Nat :=
  let (m, q) := x.parts
  (m <<< q.toNat, 1 <<< (-q).toNat)

def ofNat (n : Nat) : Binary64 := ofRatio false n 1

def mul (x y : Binary64) : Binary64 :=
  let (a, b) := x.ratio
  let (c, d) := y.ratio
  ofRatio (x.isNegative != y.isNegative) (a * c) (b * d)

def div (x y : Binary64) : Binary64 :=
  let (a, b) := x.ratio
  let (c, d) := y.ratio
  ofRatio (x.isNegative != y.isNegative) (a * d) (b * c)

def neg (x : Binary64) : Binary64 := ofMagnitude (!x.isNegative) x.magnitude

def ofDecimal (negative : Bool) (digits : Nat) (exponent : Int) : Binary64 :=
  ofRatio negative (digits * Nat.pow 10 exponent.toNat) (Nat.pow 10 (-exponent).toNat)

end Binary64
end Workload
