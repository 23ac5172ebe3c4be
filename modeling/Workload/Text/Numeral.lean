/-! Decimal numerals: writing a number in digits and reading it back. -/
namespace Workload.Text

def digits (n : Nat) : List Char := Nat.toDigits 10 n

def ofDigits (cs : List Char) : Nat := Nat.ofDigitChars 10 cs 0

theorem ofDigits_digits (n : Nat) : ofDigits (digits n) = n :=
  Nat.ofDigitChars_toDigits (by decide) (by decide)

def isDigits (cs : List Char) : Bool := !cs.isEmpty && cs.all Char.isDigit

/-- One optional plus sign, then at least one digit. -/
def unsigned? (cs : List Char) : Option Nat :=
  let ds := if cs.head? = some '+' then cs.tail else cs
  if isDigits ds then some (ofDigits ds) else none

def unsignedBelow? (bound : Nat) (cs : List Char) : Option Nat :=
  (unsigned? cs).filter (· < bound)

def uint16? (cs : List Char) : Option UInt16 := (unsignedBelow? UInt16.size cs).map UInt16.ofNat
def uint32? (cs : List Char) : Option UInt32 := (unsignedBelow? UInt32.size cs).map UInt32.ofNat
def uint64? (cs : List Char) : Option UInt64 := (unsignedBelow? UInt64.size cs).map UInt64.ofNat

def size128 : Nat := UInt64.size * UInt64.size

def hexValue? (c : Char) : Option Nat :=
  if c.isDigit then some (c.toNat - '0'.toNat)
  else if 'a' ≤ c ∧ c ≤ 'f' then some (c.toNat - 'a'.toNat + 10)
  else if 'A' ≤ c ∧ c ≤ 'F' then some (c.toNat - 'A'.toNat + 10)
  else none

def inBase? (base : Nat) (cs : List Char) : Option Nat :=
  if cs.isEmpty then none else
    cs.foldl (fun acc c => do
      let n ← acc
      let d ← hexValue? c
      if d < base then some (n * base + d) else none) (some 0)

def lowerHex (n : Nat) : List Char := Nat.toDigits 16 n

def upperHex (n : Nat) : List Char := (lowerHex n).map Char.toUpper

def padZeros (width : Nat) (cs : List Char) : List Char :=
  List.replicate (width - cs.length) '0' ++ cs

end Workload.Text

namespace Workload

def numeral (n : Nat) : String := String.ofList (Text.digits n)

end Workload
