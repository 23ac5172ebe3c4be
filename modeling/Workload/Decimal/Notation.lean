import Workload.Decimal.Shortest

/-! How the shortest decimal of a number is spelled. -/
namespace Workload.Decimal

def positional (s : Scientific) : List Char :=
  let ds := Text.digits s.digits
  if 0 ≤ s.exponent then ds ++ List.replicate s.exponent.toNat '0'
  else
    let places := (-s.exponent).toNat
    let ds := Text.padZeros (places + 1) ds
    ds.take (ds.length - places) ++ '.' :: ds.drop (ds.length - places)

def signed (negative : Bool) (cs : List Char) : List Char := if negative then '-' :: cs else cs

def plain (x : Binary64) : List Char :=
  if x.isNaN then "NaN".toList
  else signed x.isNegative <|
    if x.isZero then ['0']
    else if x.isFinite then positional (shortest x)
    else "inf".toList

/-- Positional notation in which a finite number always has a point. -/
def pointed (x : Binary64) : List Char :=
  let cs := plain x
  if x.isFinite && !cs.contains '.' then cs ++ ".0".toList else cs

def exponential (s : Scientific) : List Char :=
  let ds := Text.digits s.digits
  let e := s.exponent + Int.ofNat ds.length - 1
  let fraction := ds.drop 1
  ds.take 1 ++ (if fraction.isEmpty then [] else '.' :: fraction) ++
    'e' :: signed (e < 0) (Text.digits e.natAbs)

/-- The text of a finite number with a point or an exponent: positional from `1e-5` up to and
below `1e16`, exponential outside. -/
def compact (x : Binary64) : List Char :=
  if x.isZero then pointed x
  else
    let s := shortest x
    let e := s.exponent + Int.ofNat (Text.digits s.digits).length
    if -5 < e && e ≤ 16 then pointed x else signed x.isNegative (exponential s)

end Workload.Decimal
