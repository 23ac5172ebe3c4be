import Workload.Error
import Workload.Text.Blank
import Workload.Text.Split

/-! Amounts of memory and processor time. Memory is counted in bytes, and processor time in shares
of which a core has 1024. -/
namespace Workload

/-- A decimal numeral kept as two integers. -/
structure DecimalParts where
  whole : Nat
  fraction : Nat
  places : Nat
deriving DecidableEq, Repr

namespace DecimalParts

def side? (cs : List Char) : Option Nat :=
  if cs.isEmpty then some 0 else Text.unsignedBelow? Text.size128 cs

/-- Reads digits with at most one point, and at most 18 digits after it. -/
def parse? (cs : List Char) : Option DecimalParts := do
  let (whole, fraction) := (Text.splitFirst '.' cs).getD (cs, [])
  if whole.isEmpty ∧ fraction.isEmpty then none
  if 18 < fraction.length then none
  return { whole := ← side? whole, fraction := ← side? fraction, places := fraction.length }

/-- `multiplier / divisor` times the number, rounded down, if it fits 64 bits. -/
def scale? (d : DecimalParts) (multiplier divisor : Nat) : Option UInt64 :=
  let whole := d.whole * multiplier
  let fraction := d.fraction * multiplier
  let sum := whole + fraction / Nat.pow 10 d.places
  let fits := fun n => n < Text.size128
  if fits whole ∧ fits fraction ∧ fits sum ∧ sum / divisor < UInt64.size then
    some (.ofNat (sum / divisor))
  else none

end DecimalParts

namespace Quantity

/-- The number a text starts with and the unit after it. -/
def splitUnit (cs : List Char) : List Char × String :=
  let inNumber (c : Char) := c.isDigit || c == '.'
  (cs.takeWhile inNumber, String.ofList (cs.dropWhile inNumber))

def amount (s : String) (number : List Char) (unit : Option (Nat × Nat)) :
    Except FieldError UInt64 :=
  let result := do
    let (multiplier, divisor) ← unit
    (← DecimalParts.parse? number).scale? multiplier divisor
  match result with
  | some n => .ok n
  | none => .error (.invalidQuantity s)

def byteUnit? : String → Option (Nat × Nat)
  | "" | "b" => some (1, 1)
  | "k" | "kb" => some (1024, 1)
  | "m" | "mb" => some (1024 * 1024, 1)
  | "g" | "gb" => some (1024 * 1024 * 1024, 1)
  | _ => none

def byteSize (s : String) : Except FieldError UInt64 :=
  let (number, unit) := splitUnit ((Text.trim s.toList).map Char.toLower)
  amount s number (byteUnit? unit)

def memoryUnit? : String → Option (Nat × Nat)
  | "" => some (1, 1)
  | "m" => some (1, 1000)
  | "k" | "K" => some (1000, 1)
  | "M" => some (1000 * 1000, 1)
  | "G" => some (1000 * 1000 * 1000, 1)
  | "T" => some (1000 * 1000 * 1000 * 1000, 1)
  | "Ki" => some (1024, 1)
  | "Mi" => some (1024 * 1024, 1)
  | "Gi" => some (1024 * 1024 * 1024, 1)
  | "Ti" => some (1024 * 1024 * 1024 * 1024, 1)
  | _ => none

def memory (s : String) : Except FieldError UInt64 :=
  let (number, unit) := splitUnit (Text.trim s.toList)
  amount s number (memoryUnit? unit)

/-- Cores, or thousandths of one with an `m` at the end. -/
def cpu (s : String) : Except FieldError UInt64 :=
  let cs := Text.trim s.toList
  match Text.dropEnding? "m" cs with
  | some number => amount s number (some (1024, 1000))
  | none => amount s cs (some (1024, 1))

end Quantity

namespace Memory

def mebibyte : Nat := 1024 * 1024

def leastMebibytes : Nat := 4

/-- Bytes of a number of MiB, at most what fits 64 bits; none or zero means the least limit. -/
def ofMebibytes (mib : Option UInt64) : UInt64 :=
  let n := (mib.getD 0).toNat
  .ofNat (if n = 0 then leastMebibytes * mebibyte else min (n * mebibyte) (UInt64.size - 1))

def toMebibytes (bytes : Option UInt64) : UInt64 :=
  .ofNat (max ((bytes.getD 0).toNat / mebibyte) leastMebibytes)

end Memory
end Workload
