import Workload.Json.Basic

/-! The number that a JSON numeral stands for. Integers of 64 bits are exact. Any other numeral
gives the fraction computed from its leading digits, as many as fit 64 bits, by one product or
quotient with a power of ten; this may differ in the last bit from the nearest fraction. -/
namespace Workload.Json

structure Numeral where
  negative : Bool
  whole : List Char
  fraction : Option (List Char)
  exponent : Option (Bool × List Char)
deriving Repr

/-- Appends digits to `n` while the result fits 64 bits, and returns how many were left over. -/
def leading (n : Nat) : List Char → Nat × Nat
  | [] => (n, 0)
  | c :: cs =>
    let m := n * 10 + (c.toNat - '0'.toNat)
    if m < UInt64.size then leading m cs else (n, cs.length + 1)

/-- `x · 10 ^ exponent`, in steps when the power itself is out of range; `none` at infinity. -/
def scale (x : Binary64) (exponent : Int) : Nat → Option Binary64
  | 0 => some x
  | steps + 1 =>
    if exponent.natAbs ≤ 308 then
      let power := Binary64.ofNat (Nat.pow 10 exponent.natAbs)
      if 0 ≤ exponent then
        let y := x.mul power
        if y.isFinite then some y else none
      else some (x.div power)
    else if x.isZero then some x
    else if 0 ≤ exponent then none
    else scale (x.div (Binary64.ofNat (Nat.pow 10 308))) (exponent + 308) steps

namespace Numeral

def fractionValue? (n : Numeral) : Option Binary64 :=
  let (a, skipped) := leading 0 n.whole
  let places := n.fraction.getD []
  let (s, unused) := leading a places
  let start := Int.ofNat skipped - Int.ofNat (places.length - unused)
  let unsigned := match n.exponent with
    | none => scale (.ofNat s) start 4
    | some (down, ds) =>
      let e := Text.ofDigits ds
      if e < UInt32.size / 2 then scale (.ofNat s) (if down then start - e else start + e) 4
      else if s ≠ 0 ∧ !down then none
      else some (.zero false)
  unsigned.map fun x => if n.negative then x.neg else x

def value? (n : Numeral) : Option Number :=
  let w := Text.ofDigits n.whole
  if n.fraction.isNone ∧ n.exponent.isNone ∧ w < UInt64.size then
    if !n.negative then some (.natural (.ofNat w))
    else if 0 < w ∧ w ≤ UInt64.size / 2 then some (.negative (.ofInt (-w)))
    else some (.fraction (Binary64.ofNat w).neg)
  else n.fractionValue?.map .fraction

end Numeral
end Workload.Json
