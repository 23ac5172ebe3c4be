import Workload.Decimal.Binary64
import Workload.Text.Numeral

/-! Reading a decimal fraction as the nearest binary number. -/
namespace Workload.Decimal

def spanDigits (cs : List Char) : List Char × List Char :=
  (cs.takeWhile Char.isDigit, cs.dropWhile Char.isDigit)

def readExponent? : List Char → Option Int
  | [] => some 0
  | e :: cs =>
    if e ≠ 'e' ∧ e ≠ 'E' then none
    else
      let (down, ds) := match cs with
        | '+' :: ds => (false, ds)
        | '-' :: ds => (true, ds)
        | ds => (false, ds)
      if Text.isDigits ds then
        some (if down then -Int.ofNat (Text.ofDigits ds) else Int.ofNat (Text.ofDigits ds))
      else none

/-- The number nearest to `± digits · 10 ^ exponent`, without raising ten to powers that are
certainly out of range. -/
def nearest (negative : Bool) (digits : Nat) (exponent : Int) : Binary64 :=
  let magnitude := Int.ofNat (Text.digits digits).length + exponent
  if digits = 0 ∨ magnitude < -400 then .zero negative
  else if 400 < magnitude then .infinity negative
  else .ofDecimal negative digits exponent

/-- Digits with an optional point among or beside them, an optional sign in front and an optional
exponent behind; the nearest number must be finite. -/
def read? (cs : List Char) : Option Binary64 := do
  let (negative, cs) := match cs with
    | '+' :: r => (false, r)
    | '-' :: r => (true, r)
    | _ => (false, cs)
  let (whole, cs) := spanDigits cs
  let (fraction, cs) := match cs with
    | '.' :: r => spanDigits r
    | _ => ([], cs)
  if whole.isEmpty ∧ fraction.isEmpty then none
  let exponent ← readExponent? cs
  let x := nearest negative (Text.ofDigits (whole ++ fraction)) (exponent - fraction.length)
  if x.isFinite then return x else none

end Workload.Decimal
