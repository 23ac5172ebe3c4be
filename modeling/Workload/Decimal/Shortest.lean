import Workload.Decimal.Binary64
import Workload.Text.Numeral

/-! The shortest decimal that reads back as a given binary number: among the decimals inside the
interval that rounds to the number, one with the fewest digits, and of those the nearest. -/
namespace Workload.Decimal

structure Scientific where
  digits : Nat
  exponent : Int
deriving DecidableEq, Repr

structure Interval where
  low : Nat
  value : Nat
  high : Nat
  denominator : Nat
  closed : Bool

/-- The reals that round to a positive finite number; the ends count when the significand is even. -/
def Interval.of (x : Binary64) : Interval :=
  let (m, q) := x.parts
  let q := q - 2
  let narrow := m == Binary64.leastNormal && -1076 < q
  { low := (4 * m - if narrow then 1 else 2) <<< q.toNat
    value := (4 * m) <<< q.toNat
    high := (4 * m + 2) <<< q.toNat
    denominator := 1 <<< (-q).toNat
    closed := m % 2 == 0 }

def Interval.holds (i : Interval) (s : Scientific) : Bool :=
  let x := s.digits * Nat.pow 10 s.exponent.toNat * i.denominator
  let unit := Nat.pow 10 (-s.exponent).toNat
  if i.closed then i.low * unit ≤ x && x ≤ i.high * unit
  else i.low * unit < x && x < i.high * unit

/-- The least `e` with `value < 10 ^ e`. -/
def Interval.magnitude (i : Interval) : Int :=
  if i.denominator ≤ i.value then
    Int.ofNat (Text.digits (i.value / i.denominator)).length
  else
    1 - Int.ofNat (Text.digits ((i.denominator - 1) / i.value)).length

/-- The neighbour of the value on the grid of multiples of `10 ^ k` that lies in the interval,
the nearer one when both do and the upper one when they are equally near. -/
def Interval.onGrid? (i : Interval) (k : Int) : Option Scientific :=
  let n := i.value * Nat.pow 10 (-k).toNat
  let d := i.denominator * Nat.pow 10 k.toNat
  let below : Scientific := ⟨n / d, k⟩
  let above : Scientific := ⟨n / d + 1, k⟩
  match i.holds below, i.holds above with
  | true, true => some (if 2 * (n % d) < d then below else above)
  | true, false => some below
  | false, true => some above
  | false, false => none

def Interval.search (i : Interval) (k : Int) : Nat → Scientific
  | 0 => ⟨i.value * Nat.pow 10 (-k).toNat / (i.denominator * Nat.pow 10 k.toNat), k⟩
  | fuel + 1 => (i.onGrid? k).getD (i.search (k - 1) fuel)

/-- The shortest decimal of a positive finite number; seventeen digits always suffice. -/
def shortest (x : Binary64) : Scientific :=
  let i := Interval.of x
  let s := i.search (i.magnitude - 1) 17
  -- a carry such as 9.9 → 10 leaves one zero at the end
  if s.digits % 10 = 0 then ⟨s.digits / 10, s.exponent + 1⟩ else s

end Workload.Decimal
